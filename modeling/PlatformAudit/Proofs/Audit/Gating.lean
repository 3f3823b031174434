import PlatformAudit.Plan.Gate
import PlatformAudit.Protocol.Messages
import PlatformAudit.Proofs.Audit.PlanLogic
import PlatformAudit.Proofs.Report.RollUp

/-!
# Gated plans

A gate asks the platform for an optional command, and the answer decides whether the last suite of
the plan runs.  Nothing else that happens before that suite can decide about it, whatever the
platform answers, and nothing before it sends the optional command.
-/

universe w

namespace PlatformAudit

open Dialogue

/-- The part of a context that tells which suites run. -/
structure Frame where
  fixture : Option Fixture
  suiteNames : List String
  discoverySuite : Nat
  decisions : List SuiteDecision

namespace Context

def frame (context : Context) : Frame where
  fixture := context.fixture
  suiteNames := context.suiteNames
  discoverySuite := context.discoverySuite
  decisions := context.decisions

section

variable (context : Context)

@[simp] theorem frame_enterSuite (suite : Nat) : (context.enterSuite suite).frame = context.frame :=
  rfl

@[simp] theorem frame_enterCase (case : Nat) : (context.enterCase case).frame = context.frame := rfl

@[simp] theorem cursor_enterCase (case : Nat) :
    (context.enterCase case).cursor.suite = context.cursor.suite := rfl

@[simp] theorem frame_finishSuite : context.finishSuite.frame = context.frame := rfl

@[simp] theorem frame_recordSkippedSuite : context.recordSkippedSuite.frame = context.frame := rfl

@[simp] theorem frame_recordCase (verdict : Verdict) :
    (context.recordCase verdict).frame = context.frame := rfl

@[simp] theorem frame_discover (edit : Discovery.Edit) :
    (context.discover edit).frame = context.frame := rfl

@[simp] theorem frame_settle (case : Case) (verdict : Verdict) (status : Option Int32) :
    (PlanRun.settle case verdict status context).frame = context.frame := by
  unfold PlanRun.settle
  cases case.precondition <;> rfl

@[simp] theorem cursor_settle (case : Case) (verdict : Verdict) (status : Option Int32) :
    (PlanRun.settle case verdict status context).cursor = context.cursor := by
  unfold PlanRun.settle
  cases case.precondition <;> rfl

end

end Context

def Effect.IsQuiet (effect : Effect) : Prop :=
  ∀ suite mustRun, effect ≠ .decide suite mustRun

namespace Gate

/-- Whether a request is the question of a gate. -/
def Asks (gate : Gate) (request : Request) : Prop :=
  ∃ header, request = .command header [gate.message.toUInt32] ∧
    header.message = Protocol.messageAttributesMessage

/-- Whether a request is the optional command of a gate. -/
def Exercises (gate : Gate) (request : Request) : Prop :=
  ∃ header parameters, request = .command header parameters ∧ header.message = gate.message

/-- Whether an answer to the question of a gate opens it: it has arrived with success, and the
command has to be there if it was declared. -/
def Opens (gate : Gate) (context : Context) (answer : Answer) : Prop :=
  ∃ response, answer = .ok response ∧ response.Succeeded ∧
    (Capability.declares (gate.capability context).declared (Capability.commandBit gate.message) =
        true →
      (gate.capability context).supported = true)

/-- What cases may do that have nothing to do with a gate. -/
def bystander (gate : Gate) : Licence where
  effect := Effect.IsQuiet
  command message parameters :=
    message ≠ gate.message ∧
      ¬(message = Protocol.messageAttributesMessage ∧ parameters = [gate.message.toUInt32])
  checks _ _ _ := Effect.noConfusion

/-- What cases may do that a gate decides about. -/
def guarded (gate : Gate) : Licence where
  effect _ := True
  command message parameters :=
    ¬(message = Protocol.messageAttributesMessage ∧ parameters = [gate.message.toUInt32])
  checks _ := trivial

theorem decision_mustRun_iff (gate : Gate) (context : Context) (response : Response) :
    (gate.decision context response).mustRun = true ↔ gate.Opens context (.ok response) := by
  have opens : gate.Opens context (.ok response) ↔
      response.status = Status.success.code ∧
        (Capability.declares (gate.capability context).declared
            (Capability.commandBit gate.message) = true →
          (gate.capability context).supported = true) := by
    constructor
    · rintro ⟨_, same, succeeded, supported⟩
      cases same
      exact ⟨succeeded, supported⟩
    · rintro ⟨succeeded, supported⟩
      exact ⟨response, rfl, succeeded, supported⟩
  rw [opens]
  unfold decision Capability.decide
  have distinct : Status.success.code ≠ Status.notFound.code := by decide
  by_cases succeeded : response.status = Status.success.code
  · cases declared : Capability.declares (gate.capability context).declared
        (Capability.commandBit gate.message) <;>
      cases supported : (gate.capability context).supported <;>
      simp [succeeded, distinct]
  · by_cases missing : response.status = Status.notFound.code
    · cases declared : Capability.declares (gate.capability context).declared
          (Capability.commandBit gate.message) <;>
        cases supported : (gate.capability context).supported <;>
        simp [missing, distinct.symm]
    · simp [succeeded, missing]

end Gate

section Bystanders

variable {σ : Type w} {respond : Responder σ} {gate : Gate}

/-- Neither the question of a gate nor its command is among the exchanges. -/
def Gate.Unaware (gate : Gate) (exchanges : List Exchange) : Prop :=
  ∀ exchange ∈ exchanges, ¬gate.Asks exchange.1 ∧ ¬gate.Exercises exchange.1

theorem Gate.unaware_append {first second : List Exchange} (before : gate.Unaware first)
    (after : gate.Unaware second) : gate.Unaware (first ++ second) :=
  List.forall_mem_append.mpr ⟨before, after⟩

namespace CaseRun.Steps

variable {licence : Licence} {case : Case} {state last : CaseState} {exchanges : List Exchange}

theorem frame_eq (quiet : ∀ effect, licence.effect effect → effect.IsQuiet)
    (steps : Steps licence case state exchanges last) :
    last.context.frame = state.context.frame ∧ last.context.cursor = state.context.cursor := by
  refine steps.keep (fun after =>
    after.context.frame = state.context.frame ∧ after.context.cursor = state.context.cursor)
    ?_ ⟨rfl, rfl⟩
  intro before _ after step holds
  cases step with
  | effect licensed =>
      rename_i effect
      cases effect with
      | check check => exact holds
      | decide suite mustRun => exact absurd rfl (quiet _ licensed suite mustRun)
      | discover edit => exact holds
  | expect expected => exact holds
  | answered licensed response => exact holds
  | unanswered licensed cause => exact holds
  | await late answer => exact holds

theorem unaware (steps : Steps gate.bystander case state exchanges last) :
    gate.Unaware exchanges := by
  intro exchange member
  constructor
  · rintro ⟨header, command, message⟩
    obtain ⟨-, -, elsewhere⟩ := steps.licensed exchange member _ _ command
    exact elsewhere ⟨message, rfl⟩
  · rintro ⟨header, parameters, command, message⟩
    obtain ⟨-, other, -⟩ := steps.licensed exchange member _ _ command
    exact other message

theorem not_asks (steps : Steps gate.guarded case state exchanges last) :
    ∀ exchange ∈ exchanges, ¬gate.Asks exchange.1 := by
  rintro exchange member ⟨header, command, message⟩
  obtain ⟨-, elsewhere⟩ := steps.licensed exchange member _ _ command
  exact elsewhere ⟨message, rfl⟩

end CaseRun.Steps

namespace PlanRun

theorem runCases_bystander (plan : Plan) {cases : List Case}
    (within : ∀ case ∈ cases, case.Within gate.bystander) (position : Nat) (carried : PlanState)
    (state : σ) :
    Carries respond (runCases plan cases position) carried state
      fun exchanges reports after _ =>
        gate.Unaware exchanges ∧ reports.map (·.id) = cases.map (·.id) ∧
          after.context.frame = carried.context.frame ∧
          after.context.cursor.suite = carried.context.cursor.suite := by
  induction cases generalizing position carried state with
  | nil => simp [Gate.Unaware]
  | cons case rest induction =>
      rw [carries_runCases_cons]
      have ofCase := within case List.mem_cons_self
      apply (runCase_steps plan ofCase _ state).mono
      intro first report between middle taken
      obtain ⟨id, finish, verdict, status, steps, rfl⟩ := taken
      obtain ⟨frame, cursor⟩ := steps.frame_eq fun _ quiet => quiet
      apply (induction (fun other member => within other (List.mem_cons_of_mem _ member))
        (position + 1) _ middle).mono
      intro second reports after _ rest
      obtain ⟨unaware, ids, sameFrame, sameSuite⟩ := rest
      refine ⟨Gate.unaware_append steps.unaware unaware, by simp [id, ids], ?_, ?_⟩
      · simpa [frame] using sameFrame
      · simpa [cursor] using sameSuite

theorem runSuite_bystander (plan : Plan) {suite : Suite}
    (within : ∀ case ∈ suite.active, case.Within gate.bystander) (position : Nat)
    (carried : PlanState) (state : σ) :
    Carries respond (runSuite plan suite position) carried state
      fun exchanges _ after _ =>
        gate.Unaware exchanges ∧ after.context.frame = carried.context.frame := by
  cases runs : (carried.context.enterSuite position).mustRun position with
  | true =>
      rw [carries_runSuite plan suite runs]
      apply (runCases_bystander plan within 0 _ state).mono
      intro _ _ _ _ ran
      exact ⟨ran.1, ran.2.2.1⟩
  | false =>
      rw [carries_runSuite_of_skipped plan suite runs]
      simp [Gate.Unaware]

theorem runSuites_bystander (plan : Plan) {suites : List Suite}
    (within : ∀ suite ∈ suites, ∀ case ∈ suite.active, case.Within gate.bystander)
    (position : Nat) (carried : PlanState) (state : σ) :
    Carries respond (runSuites plan suites position) carried state
      fun exchanges reports after _ =>
        gate.Unaware exchanges ∧ reports.length = suites.length ∧
          after.context.frame = carried.context.frame := by
  induction suites generalizing position carried state with
  | nil => simp [Gate.Unaware]
  | cons suite rest induction =>
      rw [carries_runSuites_cons]
      apply (runSuite_bystander plan (within suite List.mem_cons_self) position _ state).mono
      intro first report between middle ran
      apply (induction (fun other member => within other (List.mem_cons_of_mem _ member))
        (position + 1) between middle).mono
      intro second reports after _ others
      refine ⟨Gate.unaware_append ran.1 others.1, by simp [others.2.1], ?_⟩
      rw [others.2.2, ran.2]

theorem runCases_guarded (plan : Plan) {cases : List Case}
    (within : ∀ case ∈ cases, case.Within gate.guarded) (position : Nat) (carried : PlanState)
    (state : σ) :
    Carries respond (runCases plan cases position) carried state
      fun exchanges reports _ _ =>
        (∀ exchange ∈ exchanges, ¬gate.Asks exchange.1) ∧
          reports.map (·.id) = cases.map (·.id) := by
  induction cases generalizing position carried state with
  | nil => simp
  | cons case rest induction =>
      rw [carries_runCases_cons]
      have ofCase := within case List.mem_cons_self
      apply (runCase_steps plan ofCase _ state).mono
      intro first report between middle taken
      obtain ⟨id, finish, verdict, status, steps, -⟩ := taken
      apply (induction (fun other member => within other (List.mem_cons_of_mem _ member))
        (position + 1) between middle).mono
      intro second reports _ _ others
      exact ⟨List.forall_mem_append.mpr ⟨steps.not_asks, others.1⟩, by simp [id, others.2]⟩

end PlanRun

end Bystanders

/-- A plan whose last suite depends on a gate in its first one. -/
structure Gating where
  plan : Plan
  gate : Gate
  opening : Suite
  early : List Case
  /-- The case that asks for the command. -/
  probe : Case
  late : List Case
  between : List Suite
  /-- The suite that sends the command. -/
  gated : Suite
  suites_eq : plan.suites = (opening :: between) ++ [gated]
  discoverySuite_eq : plan.discoverySuite = 0
  suite_eq : gate.suite = between.length + 1
  active_eq : opening.active = early ++ probe :: late
  capability_congr :
    ∀ first second : Context, first.fixture = second.fixture →
      gate.capability first = gate.capability second
  probe_protocol : probe.protocol = plan.protocol
  probe_hooks : probe.hooks = gate.hooks
  probe_message : probe.message = Protocol.messageAttributesMessage
  probe_parameters : probe.parameters = .fixed [gate.message.toUInt32]
  probe_invalidSlot : probe.invalidSlot = none
  probe_precondition : probe.precondition = .none
  probe_delayed : probe.delayed = none
  message_ne : gate.message ≠ Protocol.messageAttributesMessage
  early_within : ∀ case ∈ early, case.Within gate.bystander
  late_within : ∀ case ∈ late, case.Within gate.bystander
  between_within : ∀ suite ∈ between, ∀ case ∈ suite.active, case.Within gate.bystander
  gated_within : ∀ case ∈ gated.active, case.Within gate.guarded

namespace Gating

variable {σ : Type w} {respond : Responder σ} (gating : Gating)

theorem opens_congr {first second : Context} (same : first.fixture = second.fixture)
    (answer : Answer) : gating.gate.Opens first answer ↔ gating.gate.Opens second answer := by
  unfold Gate.Opens
  rw [gating.capability_congr first second same]

def decided (frame : Frame) (mustRun : Bool) : Frame :=
  { frame with decisions := { suite := gating.gate.suite, mustRun } :: frame.decisions }

theorem frame_decideSuite {context : Context} (accepts : context.AcceptsDecision gating.gate.suite)
    (mustRun : Bool) :
    (context.decideSuite gating.gate.suite mustRun).frame =
      gating.decided context.frame mustRun := by
  simp [Context.decideSuite_eq, accepts, decided, Context.frame]

theorem fixedParameters_probe (context : Context) :
    CaseRun.fixedParameters gating.probe context = .ok [gating.gate.message.toUInt32] := by
  simp [CaseRun.fixedParameters, gating.probe_parameters, gating.probe_invalidSlot]

/-- The probe asks one question, and the answer decides. -/
theorem runCase_probe {carried : PlanState}
    (accepts : carried.context.AcceptsDecision gating.gate.suite) (state : σ) :
    Carries respond (PlanRun.runCase gating.plan gating.probe) carried state
      fun exchanges _ after _ =>
        ∃ header answer mustRun,
          exchanges = [(.command header [gating.gate.message.toUInt32], answer)] ∧
            header.protocol = gating.plan.protocol ∧
            header.message = Protocol.messageAttributesMessage ∧
            (mustRun = true ↔ gating.gate.Opens carried.context answer) ∧
            after.context.frame = gating.decided carried.context.frame mustRun := by
  have free : PlanRun.obstacle? gating.probe carried.context = none := by
    simp [PlanRun.obstacle?, gating.probe_precondition]
  have execute : gating.probe.hooks.execute = .done .standard := by
    rw [gating.probe_hooks]
    rfl
  rw [PlanRun.carries_runCase gating.plan free]
  simp only [CaseRun.perform?, execute, CaseRun.play, carries_bind, carries_pure,
    CaseRun.sendFixed, carries_get, gating.fixedParameters_probe, List.nil_append,
    List.append_nil, PlanRun.startOf]
  rcases answer : respond state
      (.command (CaseRun.nextHeader gating.probe gating.probe.message carried.token)
        [gating.gate.message.toUInt32]) with ⟨cause | response, next⟩
  · rw [CaseRun.carries_sendChecked_unanswered answer]
    simp only [gating.probe_hooks, Gate.hooks, CaseRun.carries_play_performs]
    refine ⟨_, _, false, rfl, gating.probe_protocol, gating.probe_message, ?_, ?_⟩
    · simp [Gate.Opens]
    · rw [Context.frame_settle]
      exact gating.frame_decideSuite accepts false
  · have reacts : gating.probe.hooks.Reacts
        fun context response => gating.gate.afterResponse response context := by
      rw [gating.probe_hooks]
      exact .gate gating.gate
    rw [CaseRun.carries_sendChecked_reacted reacts answer (.inl gating.probe_delayed)]
    refine ⟨_, _, (gating.gate.decision carried.context response).mustRun, rfl,
      gating.probe_protocol, gating.probe_message, Gate.decision_mustRun_iff _ _ _, ?_⟩
    -- Of the effects of a gate only the decision touches the frame.
    rw [Context.frame_settle]
    exact gating.frame_decideSuite accepts _

/-- The question of the gate is asked once among the exchanges, which begin in the given context.
Its answer is the only one that decides. -/
def Decides (context : Context) (exchanges : List Exchange) (after : Frame) : Prop :=
  ∃ before header answer behind mustRun,
    exchanges = before ++ (.command header [gating.gate.message.toUInt32], answer) :: behind ∧
      header.protocol = gating.plan.protocol ∧
      header.message = Protocol.messageAttributesMessage ∧
      gating.gate.Unaware before ∧ gating.gate.Unaware behind ∧
      (mustRun = true ↔ gating.gate.Opens context answer) ∧
      after = gating.decided context.frame mustRun

theorem runSuite_opening {carried : PlanState}
    (discovery : carried.context.discoverySuite = 0)
    (known : gating.gate.suite < carried.context.suiteNames.length) (state : σ) :
    Carries respond (PlanRun.runSuite gating.plan gating.opening 0) carried state
      fun exchanges _ after _ => gating.Decides carried.context exchanges after.context.frame := by
  have runs : (carried.context.enterSuite 0).mustRun 0 = true := by
    simp [Context.mustRun, Context.enterSuite, discovery]
  rw [PlanRun.carries_runSuite gating.plan gating.opening runs, gating.active_eq,
    PlanRun.carries_runCases_append]
  apply (PlanRun.runCases_bystander gating.plan gating.early_within 0 _ state).mono
  intro before reports between middle early
  obtain ⟨unawareBefore, -, frame, cursor⟩ := early
  obtain ⟨sameFixture, sameNames, sameDiscovery, -⟩ := Frame.mk.inj frame
  rw [PlanRun.carries_runCases_cons]
  -- The cases before the probe leave the frame alone, so the decision comes in time.
  have accepts : (between.context.enterCase (0 + gating.early.length)).AcceptsDecision
      gating.gate.suite := by
    have positive : 0 < gating.gate.suite := by
      rw [gating.suite_eq]
      omega
    refine ⟨?_, ?_, .inl ?_⟩
    · change gating.gate.suite ≠ between.context.discoverySuite
      rw [sameDiscovery]
      change gating.gate.suite ≠ carried.context.discoverySuite
      omega
    · change gating.gate.suite < between.context.suiteNames.length
      rw [sameNames]
      exact known
    · rw [Context.cursor_enterCase, cursor]
      exact positive
  apply (gating.runCase_probe accepts middle).mono
  intro asked report afterProbe later probed
  obtain ⟨header, answer, mustRun, rfl, protocol, message, opens, decided⟩ := probed
  apply (PlanRun.runCases_bystander gating.plan gating.late_within _ afterProbe later).mono
  intro behind others after _ late
  obtain ⟨unawareBehind, -, sameFrame, -⟩ := late
  refine ⟨before, header, answer, behind, mustRun, rfl, protocol, message, unawareBefore,
    unawareBehind, ?_, ?_⟩
  · rw [opens]
    have fixtures : (between.context.enterCase (0 + gating.early.length)).fixture =
        carried.context.fixture := sameFixture
    exact gating.opens_congr fixtures answer
  · rw [Context.frame_finishSuite, sameFrame, decided, Context.frame_enterCase, frame]
    rfl

end Gating

/-- How a gate governs the run of a plan in the given context.  The answer to its question is the
given one; `ahead` is what was exchanged before its suite and `inside` what was exchanged in it. -/
structure Gate.Governs (gate : Gate) (context : Context) (answer : Answer) (suite : Suite)
    (ahead inside : List Exchange) (report : SuiteReport) : Prop where
  /-- The question is asked once, and before the suite of the gate. -/
  asked :
    ∃ before header behind,
      ahead = before ++ (.command header [gate.message.toUInt32], answer) :: behind ∧
        header.protocol = context.protocol ∧ header.message = Protocol.messageAttributesMessage ∧
        ∀ exchange ∈ before ++ behind ++ inside, ¬gate.Asks exchange.1
  /-- The command is not sent before the suite of the gate. -/
  withheld : ∀ exchange ∈ ahead, ¬gate.Exercises exchange.1
  /-- If the answer opens the gate, all cases of the suite run. -/
  opened :
    gate.Opens context answer →
      report.skipped = false ∧ report.cases.map (·.id) = suite.active.map (·.id)
  /-- If it does not, the suite is left out and asks nothing. -/
  closed : ¬gate.Opens context answer → report = .ofSkipped suite.name ∧ inside = []

private theorem prefix_of_not_mem {α : Type} {first second earlier later : List α} {member : α}
    (same : first ++ second = earlier ++ member :: later) (elsewhere : member ∉ first) :
    ∃ rest, earlier = first ++ rest ∧ second = rest ++ member :: later := by
  rcases List.append_eq_append_iff.mp same with
    ⟨rest, ofEarlier, ofSecond⟩ | ⟨rest, ofFirst, behind⟩
  · exact ⟨rest, ofEarlier, ofSecond⟩
  · cases rest with
    | nil => exact ⟨[], by simpa using ofFirst.symm, by simpa using behind.symm⟩
    | cons head rest =>
        obtain ⟨rfl, -⟩ := List.cons.inj behind
        exact absurd (by simp [ofFirst]) elsewhere

/-- The command of a gate is sent only after its question was answered with success. -/
theorem Gate.Governs.exercised_after_success {gate : Gate} {context : Context} {answer : Answer}
    {suite : Suite} {ahead inside earlier later : List Exchange} {exchange : Exchange}
    {report : SuiteReport} (governs : gate.Governs context answer suite ahead inside report)
    (split : ahead ++ inside = earlier ++ exchange :: later)
    (exercises : gate.Exercises exchange.1) :
    ∃ header response,
      (.command header [gate.message.toUInt32], .ok response) ∈ earlier ∧
        header.message = Protocol.messageAttributesMessage ∧ response.Succeeded := by
  have elsewhere : exchange ∉ ahead := fun member => governs.withheld exchange member exercises
  obtain ⟨rest, rfl, ofInside⟩ := prefix_of_not_mem split elsewhere
  have opens : gate.Opens context answer := by
    by_contra shut
    rw [(governs.closed shut).2] at ofInside
    simp at ofInside
  obtain ⟨response, rfl, succeeded, -⟩ := opens
  obtain ⟨before, header, behind, rfl, -, message, -⟩ := governs.asked
  exact ⟨header, response, by simp, message, succeeded⟩

/-- The gate governs its suite in every run of the plan, whoever answers.  Its command is sent only
after its question was answered with success. -/
def Plan.GovernedBy (plan : Plan) (gate : Gate) : Prop :=
  ∀ {σ : Type w} (respond : Responder σ) (state : σ) (fixture : Option Fixture) (token : UInt16)
    (journal : Journal),
    let ahead :=
      Dialogue.transcript respond
        (PlanRun.runSuites plan (plan.suites.take gate.suite) 0
          { token, context := plan.context fixture })
        state
    ∃ suite earlier report answer inside,
      plan.suites[gate.suite]? = some suite ∧
        ((plan.runFrom fixture token).run respond state journal).value.1.suites = earlier ++ [report] ∧
        earlier.length = gate.suite ∧
        (plan.runFrom fixture token).transcript respond state = ahead ++ inside ∧
        gate.Governs (plan.context fixture) answer suite ahead inside report ∧
        ∀ before exchange behind, ahead ++ inside = before ++ exchange :: behind →
          gate.Exercises exchange.1 →
            ∃ header response,
              (.command header [gate.message.toUInt32], .ok response) ∈ before ∧
                header.message = Protocol.messageAttributesMessage ∧ response.Succeeded

namespace Gating

variable (gating : Gating)

theorem suites_take :
    gating.plan.suites.take gating.gate.suite = gating.opening :: gating.between := by
  rw [gating.suites_eq, gating.suite_eq]
  exact List.take_left' rfl

theorem suites_getElem? : gating.plan.suites[gating.gate.suite]? = some gating.gated := by
  rw [gating.suites_eq, gating.suite_eq]
  simp

theorem runSuites_ahead {σ : Type w} {respond : Responder σ} (fixture : Option Fixture)
    (token : UInt16) (state : σ) :
    Carries respond (PlanRun.runSuites gating.plan (gating.opening :: gating.between) 0)
      { token, context := gating.plan.context fixture } state
      fun exchanges reports after _ =>
        reports.length = gating.gate.suite ∧
          gating.Decides (gating.plan.context fixture) exchanges after.context.frame := by
  have known : gating.gate.suite < (gating.plan.context fixture).suiteNames.length := by
    change gating.gate.suite < (gating.plan.suites.map (·.name)).length
    rw [gating.suites_eq, gating.suite_eq]
    simp
  rw [PlanRun.carries_runSuites_cons]
  apply (gating.runSuite_opening gating.discoverySuite_eq known state).mono
  intro opening report between middle opened
  obtain ⟨before, header, answer, behind, mustRun, rfl, protocol, message, unawareBefore,
    unawareBehind, opens, decided⟩ := opened
  apply (PlanRun.runSuites_bystander gating.plan gating.between_within (0 + 1) between
    middle).mono
  intro others reports after _ ran
  obtain ⟨unaware, length, frame⟩ := ran
  refine ⟨by simp [length, gating.suite_eq], before, header, answer, behind ++ others, mustRun,
    by simp, protocol, message, unawareBefore, Gate.unaware_append unawareBehind unaware, opens,
    ?_⟩
  rw [frame, decided]

theorem runSuite_gated {σ : Type w} {respond : Responder σ} {carried : PlanState} {frame : Frame}
    {mustRun : Bool} (discovery : frame.discoverySuite = 0)
    (decided : carried.context.frame = gating.decided frame mustRun) (state : σ) :
    Carries respond (PlanRun.runSuite gating.plan gating.gated gating.gate.suite) carried state
      fun exchanges report _ _ =>
        (∀ exchange ∈ exchanges, ¬gating.gate.Asks exchange.1) ∧
          (mustRun = true →
            report.skipped = false ∧
              report.cases.map (·.id) = gating.gated.active.map (·.id)) ∧
          (mustRun = false → report = .ofSkipped gating.gated.name ∧ exchanges = []) := by
  have decision : (carried.context.enterSuite gating.gate.suite).mustRun gating.gate.suite =
      mustRun := by
    obtain ⟨-, -, sameDiscovery, decisions⟩ := Frame.mk.inj decided
    have position := gating.suite_eq
    have later : gating.gate.suite ≠ frame.discoverySuite := by omega
    simp [Context.mustRun, Context.isSkipped, Context.enterSuite, sameDiscovery, decisions, later]
  cases mustRun with
  | true =>
      rw [PlanRun.carries_runSuite gating.plan gating.gated decision]
      apply (PlanRun.runCases_guarded gating.plan gating.gated_within 0 _ state).mono
      intro _ reports _ _ ran
      refine ⟨ran.1, fun _ => ?_, fun closed => absurd closed (by decide)⟩
      rw [SuiteReport.ofCases_eq]
      exact ⟨rfl, ran.2⟩
  | false =>
      rw [PlanRun.carries_runSuite_of_skipped gating.plan gating.gated decision]
      simp

theorem Decides.withheld {context : Context} {exchanges : List Exchange} {after : Frame}
    (decides : gating.Decides context exchanges after) :
    ∀ exchange ∈ exchanges, ¬gating.gate.Exercises exchange.1 := by
  obtain ⟨before, header, answer, behind, _, rfl, _, message, unawareBefore, unawareBehind, _⟩ :=
    decides
  intro exchange member
  rcases List.mem_append.mp member with member | member
  · exact (unawareBefore exchange member).2
  · rcases List.mem_cons.mp member with rfl | member
    · rintro ⟨other, parameters, command, exercised⟩
      obtain ⟨rfl, rfl⟩ := Request.command.inj command
      exact gating.message_ne (exercised.symm.trans message)
    · exact (unawareBehind exchange member).2

/-- A run of the plan is cut in front of its last suite, and the gate governs what comes then. -/
theorem run_governed {σ : Type w} {respond : Responder σ} (fixture : Option Fixture)
    (token : UInt16)
    (state : σ) :
    let ahead :=
      Dialogue.transcript respond
        (PlanRun.runSuites gating.plan (gating.plan.suites.take gating.gate.suite) 0
          { token, context := gating.plan.context fixture })
        state
    (gating.plan.runFrom fixture token).Leads respond state fun exchanges result _ =>
      ∃ earlier report answer inside,
        result.1.suites = earlier ++ [report] ∧ earlier.length = gating.gate.suite ∧
          exchanges = ahead ++ inside ∧
          gating.gate.Governs (gating.plan.context fixture) answer gating.gated ahead inside
            report := by
  intro ahead
  rw [Plan.leads_run, gating.suites_eq, PlanRun.carries_runSuites_append]
  apply Carries.mono
    (Carries.and (gating.runSuites_ahead fixture token state) (carries_transcript _ _ _))
  intro exchanges reports between middle ran
  obtain ⟨⟨length, decides⟩, transcript⟩ := ran
  have withheld := decides.withheld
  obtain ⟨before, header, answer, behind, mustRun, asked, protocol, message, unawareBefore,
    unawareBehind, opens, decided⟩ := decides
  have position : 0 + (gating.opening :: gating.between).length = gating.gate.suite := by
    rw [gating.suite_eq]
    simp
  have ofAhead : ahead = exchanges := by
    rw [transcript, ← gating.suites_take]
  rw [PlanRun.carries_runSuites_cons, position]
  apply (gating.runSuite_gated gating.discoverySuite_eq decided middle).mono
  intro inside report after last gated
  obtain ⟨notAsked, opened, closed⟩ := gated
  rw [PlanRun.carries_runSuites_nil]
  refine ⟨reports, report, answer, inside, by simp [ProtocolReport.ofSuites_eq], length,
    by simp [ofAhead], ?_⟩
  rw [ofAhead]
  constructor
  · refine ⟨before, header, behind, asked, protocol, message, ?_⟩
    simp only [List.forall_mem_append]
    exact ⟨⟨fun exchange member => (unawareBefore exchange member).1,
      fun exchange member => (unawareBehind exchange member).1⟩, notAsked⟩
  · exact withheld
  · intro isOpen
    exact opened (opens.mpr isOpen)
  · intro isShut
    exact closed (Bool.eq_false_iff.mpr (mt opens.mp isShut))

theorem governed : gating.plan.GovernedBy.{w} gating.gate := by
  intro σ respond state fixture token journal ahead
  obtain ⟨earlier, report, answer, inside, suites, length, exchanges, governs⟩ :=
    (leads_iff _ _ journal _).mp (gating.run_governed fixture token state)
  exact ⟨gating.gated, earlier, report, answer, inside, gating.suites_getElem?, suites, length,
    exchanges, governs, fun _ _ _ split => governs.exercised_after_success split⟩

end Gating

end PlatformAudit
