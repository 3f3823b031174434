import PlatformAudit.Proofs.Audit.Gating
import PlatformAudit.Proofs.Plan.CleanChecks

/-!
# Clean runs

A run is clean if none of its checks fails or goes wrong.  `Cleanly` says this of a part of a run,
with an assertion on what holds before and one on what holds after it.  The assertions see the
standing of the context, that is everything that the outcome of later cases can depend on, and the
state of the platform.
-/

universe w

namespace PlatformAudit

open Dialogue

/-- What the outcome of later cases can depend on. -/
structure Standing where
  frame : Frame
  suite : Nat
  precondition : Option Precondition
  discovered : Discovery

def Standing.decided (standing : Standing) (suite : Nat) (mustRun : Bool) : Standing :=
  { standing with
    frame := { standing.frame with
      decisions := { suite, mustRun } :: standing.frame.decisions } }

namespace Context

def standing (context : Context) : Standing where
  frame := context.frame
  suite := context.cursor.suite
  precondition := context.precondition
  discovered := context.discovered

section

variable (context : Context)

@[simp] theorem standing_enterSuite (suite : Nat) :
    (context.enterSuite suite).standing = { context.standing with suite } := rfl

@[simp] theorem standing_enterCase (case : Nat) :
    (context.enterCase case).standing = context.standing := rfl

@[simp] theorem standing_finishSuite : context.finishSuite.standing = context.standing := rfl

@[simp] theorem standing_recordSkippedSuite :
    context.recordSkippedSuite.standing = context.standing := rfl

@[simp] theorem standing_discover (edit : Discovery.Edit) :
    (context.discover edit).standing =
      { context.standing with discovered := context.standing.discovered.edit edit } := rfl

/-- A decision about a suite ahead is accepted. -/
theorem standing_decideSuite {suite : Nat} (mustRun : Bool)
    (gated : suite ≠ context.standing.frame.discoverySuite)
    (inside : suite < context.standing.frame.suiteNames.length)
    (ahead : context.standing.suite < suite) :
    (context.decideSuite suite mustRun).standing = context.standing.decided suite mustRun := by
  have accepts : context.AcceptsDecision suite := ⟨gated, inside, .inl ahead⟩
  rw [decideSuite_eq, if_pos accepts]
  rfl

theorem standing_settle {case : Case} (role : case.precondition ≠ .define) (verdict : Verdict)
    (status : Option Int32) :
    (PlanRun.settle case verdict status context).standing = context.standing := by
  unfold PlanRun.settle
  cases precondition : case.precondition with
  | none => rfl
  | use => rfl
  | define => exact absurd precondition role

theorem standing_settle_of_define {case : Case} (role : case.precondition = .define)
    (verdict : Verdict) (status : Int32) :
    (PlanRun.settle case verdict (some status) context).standing =
      { context.standing with precondition := some { verdict, status } } := by
  unfold PlanRun.settle
  rw [role]
  rfl

end

end Context

namespace CaseState

def IsClean (state : CaseState) : Prop :=
  ∀ check ∈ state.checks, check.IsClean

theorem IsClean.noted {state : CaseState} {checks : List Check} (clean : state.IsClean)
    (more : ∀ check ∈ checks, check.IsClean) : (state.noted checks).IsClean :=
  List.forall_mem_append.mpr ⟨clean, more⟩

theorem IsClean.affected {state : CaseState} {effects : List Effect} (clean : state.IsClean)
    (more : ∀ effect ∈ effects, ∀ check ∈ effect.checks, check.IsClean) :
    (state.affected effects).IsClean :=
  List.forall_mem_append.mpr ⟨clean, List.forall_mem_flatMap.mpr more⟩

end CaseState

namespace CaseRun

variable {case : Case} {status : Option ExpectedStatus} {before : CaseState} {response : Response}
  {made : Context → Response → List Effect}

theorem checked_isClean (clean : before.IsClean)
    (accepted : ((statusFor case status before.context).toCheck "status" response.status).IsClean)
    (fulfilled : response.Succeeded →
      ∀ descriptor ∈ before.expected, (descriptor.toCheck response.returns).IsClean) :
    (checked case status before response).IsClean := by
  refine CaseState.IsClean.noted clean (List.forall_mem_cons.mpr ⟨accepted, ?_⟩)
  split
  · rename_i succeeded
    exact List.forall_mem_map.mpr (fulfilled succeeded)
  · simp

theorem exists_checked (case : Case) (status : Option ExpectedStatus) (before : CaseState)
    (response : Response) (made : Context → Response → List Effect) :
    ∃ check ∈ (reacted case status before response made).checks, check.outcome ≠ .skip :=
  ⟨(statusFor case status before.context).toCheck "status" response.status,
    by simp [reacted, checked, answerChecks], ExpectedStatus.toCheck_outcome_ne_skip _ _ _⟩

/-- A checked command without a late completion whose answer is as expected. -/
theorem sendChecked_clean {σ : Type w} {respond : Responder σ} {state next : σ}
    {parameters : List UInt32} (clean : before.IsClean)
    (answer : respond state (.command (nextHeader case case.message before.token) parameters) =
      (.ok response, next))
    (immediate : case.delayed = none)
    (silent : case.hooks.afterResponse = fun _ => .done ())
    (accepted : ((statusFor case status before.context).toCheck "status" response.status).IsClean)
    (fulfilled : response.Succeeded →
      ∀ descriptor ∈ before.expected, (descriptor.toCheck response.returns).IsClean) :
    Carries respond (sendChecked case parameters status) before state
      fun _ value after last =>
        value = some response ∧ last = next ∧ after.IsClean ∧ after.context = before.context ∧
          after.expected = before.expected := by
  rw [carries_sendChecked_reacted (.nothing silent) answer (.inl immediate)]
  have answered := checked_isClean clean accepted fulfilled
  exact ⟨rfl, rfl, answered.affected (List.forall_mem_nil _), rfl, rfl⟩

theorem sendChecked_made {σ : Type w} {respond : Responder σ} {state next : σ}
    {parameters : List UInt32}
    (answer : respond state (.command (nextHeader case case.message before.token) parameters) =
      (.ok response, next))
    (immediate : case.delayed = none) (reacts : case.hooks.Reacts made) :
    Carries respond (sendChecked case parameters status) before state
      fun _ _ after _ => ∃ check ∈ after.checks, check.outcome ≠ .skip := by
  rw [carries_sendChecked_reacted reacts answer (.inl immediate)]
  exact exists_checked case status before response made

/-- A late completion that belongs to the command and is as expected. -/
theorem completionChecks_isClean {sent : Header} {descriptors : List Descriptor}
    {response : Response}
    (belongs : sent.Matches response.header ∧ sent.token = response.header.token)
    (succeeded : response.Succeeded)
    (kept : ∀ descriptor ∈ descriptors, (descriptor.toCheck response.returns).IsClean) :
    ∀ check ∈ completionChecks sent descriptors response, check.IsClean := by
  have header : (headerCheck sent response.header).IsClean := by
    rw [headerCheck, if_pos belongs]
    exact Check.isClean_passed _ _
  have status : (ExpectedStatus.toCheck (.exact .success) "delayed status"
      response.status).IsClean := by
    rw [succeeded]
    exact ExpectedStatus.toCheck_exact_isClean .success _
  rw [completionChecks, if_pos succeeded]
  simp only [List.cons_append, List.nil_append, List.forall_mem_cons]
  exact ⟨header, status, List.forall_mem_map.mpr kept⟩

theorem forEach_keeps {σ : Type w} {respond : Responder σ} {ι : Type} {items : List ι}
    {body : ι → Script Unit} {invariant : CaseState → σ → Prop}
    (round : ∀ item ∈ items, ∀ before state, invariant before state →
      Carries respond (playScript case (body item)) before state
        fun _ _ after last => invariant after last)
    {before : CaseState} {state : σ} (holds : invariant before state) :
    Carries respond (playScript case (Course.forEach items body)) before state
      fun _ _ after last => invariant after last := by
  induction items generalizing before state with
  | nil => exact holds
  | cons item rest induction =>
      rw [Course.forEach, carries_playScript_bind]
      apply (round item List.mem_cons_self before state holds).mono
      intro _ _ between middle held
      exact induction (fun other member => round other (List.mem_cons_of_mem _ member)) held

end CaseRun

/-- The response that repeats the header of a command. -/
def Response.answering (header : Header) (status : Status) (returns : List UInt32) : Response where
  header := header
  status := status.code
  returns := returns

@[simp] theorem Response.answering_status (header : Header) (status : Status)
    (returns : List UInt32) : (answering header status returns).status = status.code := rfl

theorem Response.answering_succeeded (header : Header) (returns : List UInt32) :
    (answering header .success returns).Succeeded := rfl

/-- A part of a run makes clean reports and leads from one assertion to another. -/
def Cleanly {σ : Type w} (respond : Responder σ) {α : Type} (run : PlanRun α) (good : α → Prop)
    (before after : Standing → σ → Prop) : Prop :=
  ∀ carried state, before carried.context.standing state →
    Carries respond run carried state
      fun _ value finish last => good value ∧ after finish.context.standing last

/-- The assertion that the standing and the platform are the given ones. -/
def Standing.At {σ : Type w} (standing : Standing) (state : σ) : Standing → σ → Prop :=
  fun other last => other = standing ∧ last = state

namespace PlanRun

variable {σ : Type w} {respond : Responder σ} {plan : Plan} {case : Case}

theorem reportOf_isClean {finish : CaseState} (clean : finish.IsClean) :
    (reportOf case finish.checks).IsClean :=
  clean

theorem reportOf_verdict {checks : List Check} (clean : ∀ check ∈ checks, check.IsClean)
    (made : ∃ check ∈ checks, check.outcome ≠ .skip) :
    (reportOf case checks).verdict = .conformant :=
  CaseReport.classify_eq_conformant clean made

theorem reportOf_nonConformant {checks : List Check}
    (failed : ∃ check ∈ checks, check.outcome = .failed) :
    (reportOf case checks).verdict = .nonConformant :=
  (CaseReport.classify_eq_nonConformant_iff checks).mpr failed

/-- A case with a fixed command whose answer is as expected. -/
theorem runCase_fixed {made : Context → Response → List Effect} (reacts : case.hooks.Reacts made)
    {carried : PlanState} {state next : σ} {parameters : List UInt32} {response : Response}
    (free : obstacle? case carried.context = none)
    (execute : case.hooks.execute = .done .standard)
    (fixed : CaseRun.fixedParameters case carried.context = .ok parameters)
    (answer : respond state
      (.command (CaseRun.nextHeader case case.message carried.token) parameters) =
        (.ok response, next))
    (immediate : case.delayed = none ∨ ¬response.Succeeded)
    (accepted :
      ((CaseRun.statusFor case none carried.context).toCheck "status" response.status).IsClean)
    (fulfilled : response.Succeeded →
      ∀ descriptor ∈ expectedReturns plan case carried.context,
        (descriptor.toCheck response.returns).IsClean)
    (effects : ∀ effect ∈ made carried.context response, ∀ check ∈ effect.checks, check.IsClean) :
    Carries respond (runCase plan case) carried state
      fun _ report after last =>
        report.IsClean ∧ last = next ∧
          after.context =
            settle case .conformant (some response.status)
              ((made carried.context response).foldl Effect.apply carried.context) := by
  rw [carries_runCase plan free]
  simp only [CaseRun.perform?, execute, CaseRun.play, carries_bind, carries_pure,
    CaseRun.sendFixed, carries_get, startOf, fixed]
  rw [CaseRun.carries_sendChecked_reacted reacts answer immediate]
  have clean : (CaseRun.reacted case none (startOf plan case carried) response made).IsClean :=
    (CaseRun.checked_isClean (fun check none => absurd none List.not_mem_nil) accepted
      fulfilled).affected effects
  have verdict : (reportOf case _).verdict = .conformant :=
    reportOf_verdict clean (CaseRun.exists_checked case none _ response made)
  refine ⟨reportOf_isClean clean, rfl, ?_⟩
  rw [startOf] at verdict
  rw [verdict]
  rfl

end PlanRun

/-- A case that sends a fixed command and does nothing of its own. -/
structure Case.IsPlain (case : Case) : Prop where
  execute : case.hooks.execute = .done .standard
  silent : case.hooks.afterResponse = fun _ => .done ()
  status : ∀ context, case.hooks.expectedStatus context = none
  role : case.precondition = .none
  immediate : case.delayed = none

theorem Status.eq_success_of_code {status : Status} (same : status.code = success.code) :
    status = success := by
  revert same
  cases status <;> decide

namespace Cleanly

section Cases

variable {σ : Type w} {respond : Responder σ} {plan : Plan} {case : Case}
  {standing following : Standing} {state next : σ} {parameters words : List UInt32}
  {outcome : Status}

theorem fixed {made : Context → Response → List Effect} (reacts : case.hooks.Reacts made)
    (execute : case.hooks.execute = .done .standard)
    (free : ∀ context : Context, context.standing = standing →
      PlanRun.obstacle? case context = none)
    (sends : ∀ context : Context, context.standing = standing →
      CaseRun.fixedParameters case context = .ok parameters)
    (answer : ∀ token,
      respond state (.command (CaseRun.nextHeader case case.message token) parameters) =
        (.ok (.answering (CaseRun.nextHeader case case.message token) outcome words), next))
    (immediate : case.delayed = none ∨ outcome ≠ .success)
    (accepted : ∀ context : Context, context.standing = standing →
      ((CaseRun.statusFor case none context).toCheck "status" outcome.code).IsClean)
    (fulfilled : outcome = .success → ∀ context : Context, context.standing = standing →
      ∀ descriptor ∈ PlanRun.expectedReturns plan case context,
        (descriptor.toCheck words).IsClean)
    (effects : ∀ (context : Context) (header : Header), context.standing = standing →
      let effects := made context (.answering header outcome words)
      (∀ effect ∈ effects, ∀ check ∈ effect.checks, check.IsClean) ∧
        (PlanRun.settle case .conformant (some outcome.code)
          (effects.foldl Effect.apply context)).standing = following) :
    Cleanly respond (PlanRun.runCase plan case) CaseReport.IsClean (standing.At state)
      (following.At next) := by
  rintro carried _ ⟨stands, rfl⟩
  obtain ⟨cleanly, settled⟩ := effects carried.context
    (CaseRun.nextHeader case case.message carried.token) stands
  refine (PlanRun.runCase_fixed reacts (free _ stands) execute (sends _ stands) (answer _) ?_
    (accepted _ stands) ?_ cleanly).mono fun _ report after last ran => ?_
  · exact immediate.imp_right fun refused succeeded =>
      refused (Status.eq_success_of_code succeeded)
  · exact fun succeeded => fulfilled (Status.eq_success_of_code succeeded) _ stands
  · obtain ⟨clean, same, context⟩ := ran
    exact ⟨clean, context ▸ settled, same⟩

theorem plain (plain : case.IsPlain) (expected : case.expectedStatus = .exact outcome)
    (sends : ∀ context : Context, context.standing = standing →
      CaseRun.fixedParameters case context = .ok parameters)
    (answer : ∀ token,
      respond state (.command (CaseRun.nextHeader case case.message token) parameters) =
        (.ok (.answering (CaseRun.nextHeader case case.message token) outcome words), next))
    (fulfilled : outcome = .success → ∀ context : Context, context.standing = standing →
      ∀ descriptor ∈ PlanRun.expectedReturns plan case context,
        (descriptor.toCheck words).IsClean) :
    Cleanly respond (PlanRun.runCase plan case) CaseReport.IsClean (standing.At state)
      (standing.At next) := by
  refine fixed (.nothing plain.silent) plain.execute (fun context _ => ?_) sends answer
    (.inl plain.immediate)
    (fun context _ => ?_) fulfilled fun context header stands => ?_
  · simp [PlanRun.obstacle?, plain.role]
  · rw [CaseRun.statusFor, plain.status, expected]
    exact ExpectedStatus.toCheck_exact_isClean outcome "status"
  · have settled : (PlanRun.settle case .conformant (some outcome.code) context).standing =
        context.standing := Context.standing_settle context (by simp [plain.role]) _ _
    exact ⟨List.forall_mem_nil _, settled.trans stands⟩

theorem refused (plain : case.IsPlain) (expected : case.expectedStatus = .exact outcome)
    (refuses : outcome ≠ .success)
    (sends : ∀ context : Context, context.standing = standing →
      CaseRun.fixedParameters case context = .ok parameters)
    (answer : ∀ token,
      respond state (.command (CaseRun.nextHeader case case.message token) parameters) =
        (.ok (.answering (CaseRun.nextHeader case case.message token) outcome []), next)) :
    Cleanly respond (PlanRun.runCase plan case) CaseReport.IsClean (standing.At state)
      (standing.At next) :=
  Cleanly.plain plain expected sends answer fun success => absurd success refuses

/-- A case whose answer is as expected, and so is the late completion that it promises. -/
theorem completed {lateWords : List UInt32} {descriptors : List Descriptor} {between : UInt16 → σ}
    (execute : case.hooks.execute = .done .standard)
    (silent : case.hooks.afterResponse = fun _ => .done ())
    (role : case.precondition = .none) (promised : case.delayed = some descriptors)
    (sends : ∀ context : Context, context.standing = standing →
      CaseRun.fixedParameters case context = .ok parameters)
    (answer : ∀ token,
      respond state (.command (CaseRun.nextHeader case case.message token) parameters) =
        (.ok (.answering (CaseRun.nextHeader case case.message token) .success words), between token))
    (completion : ∀ token,
      respond (between token) (.await .delayedResponse) =
        (.ok
          (.answering { CaseRun.nextHeader case case.message token with kind := .delayedResponse }
            .success lateWords),
          next))
    (accepted : ∀ context : Context, context.standing = standing →
      CaseRun.statusFor case none context = .exact .success)
    (fulfilled : ∀ context : Context, context.standing = standing →
      ∀ descriptor ∈ PlanRun.expectedReturns plan case context,
        (descriptor.toCheck words).IsClean)
    (kept : ∀ descriptor ∈ descriptors, (descriptor.toCheck lateWords).IsClean) :
    Cleanly respond (PlanRun.runCase plan case) CaseReport.IsClean (standing.At state)
      (standing.At next) := by
  rintro carried _ ⟨stands, rfl⟩
  have free : PlanRun.obstacle? case carried.context = none := by
    simp [PlanRun.obstacle?, role]
  rw [PlanRun.carries_runCase plan free]
  simp only [CaseRun.perform?, execute, CaseRun.play, carries_bind, carries_pure,
    CaseRun.sendFixed, carries_get, PlanRun.startOf, sends _ stands]
  rw [CaseRun.carries_sendChecked_promised (answer _) promised rfl, silent,
    CaseRun.carries_playPlain_done, CaseRun.carries_awaitCompletion_answered (completion _)]
  have status : ((CaseRun.statusFor case none carried.context).toCheck "status"
      Status.success.code).IsClean := by
    rw [accepted _ stands]
    exact ExpectedStatus.toCheck_exact_isClean .success "status"
  have answered : (CaseRun.checked case none (PlanRun.startOf plan case carried)
      (.answering (CaseRun.nextHeader case case.message carried.token) .success words)).IsClean :=
    CaseRun.checked_isClean (fun check none => absurd none List.not_mem_nil) status
      fun _ => fulfilled _ stands
  refine ⟨PlanRun.reportOf_isClean (CaseState.IsClean.noted answered
    (CaseRun.completionChecks_isClean ⟨⟨rfl, rfl⟩, rfl⟩ rfl kept)), ?_, rfl⟩
  rw [Context.standing_settle _ (by simp [role])]
  exact stands

/-- A gate whose command is declared as the platform has it. -/
theorem probe (words : List UInt32) {gate : Gate} {supported : Bool}
    (hooks : case.hooks = gate.hooks)
    (role : case.precondition = .none) (immediate : case.delayed = none)
    (expected : case.expectedStatus = .unspecified)
    (sends : case.parameters = .fixed parameters) (valid : case.invalidSlot = none)
    (answer : ∀ token,
      respond state (.command (CaseRun.nextHeader case case.message token) parameters) =
        (.ok (.answering (CaseRun.nextHeader case case.message token)
          (if supported then .success else .notFound) words), next))
    (fulfilled : supported = true → ∀ context : Context, context.standing = standing →
      ∀ descriptor ∈ PlanRun.expectedReturns plan case context,
        (descriptor.toCheck words).IsClean)
    (declared : ∀ context : Context, context.standing = standing →
      gate.capability context = { declared := Capability.allCommands, supported })
    (gated : gate.suite ≠ standing.frame.discoverySuite)
    (inside : gate.suite < standing.frame.suiteNames.length)
    (ahead : standing.suite < gate.suite) :
    Cleanly respond (PlanRun.runCase plan case) CaseReport.IsClean (standing.At state)
      ((standing.decided gate.suite supported).At next) := by
  have execute : case.hooks.execute = .done .standard := by rw [hooks]; rfl
  have reacts : case.hooks.Reacts fun context response => gate.afterResponse response context := by
    rw [hooks]
    exact .gate gate
  refine fixed reacts execute (fun context _ => ?_) (fun context _ => ?_) answer (.inl immediate)
    (fun context _ => ?_) (fun success => ?_) fun context header stands => ?_
  · simp [PlanRun.obstacle?, role]
  · simp [CaseRun.fixedParameters, sends, valid]
  · rw [CaseRun.statusFor, hooks, expected]
    exact ExpectedStatus.toCheck_unspecified_isClean "status" _
  · apply fulfilled
    cases supported with
    | true => rfl
    | false => exact absurd success (by decide)
  · have decision : ∃ detail, (gate.capability context).decide
        (Capability.commandBit gate.message) gate.message
          (if supported then Status.success else Status.notFound).code =
        { mustRun := supported, outcome := .passed, detail } := by
      rw [declared context stands]
      cases supported <;> exact ⟨_, rfl⟩
    obtain ⟨detail, decision⟩ := decision
    simp only [Gate.afterResponse, Gate.decision, Response.answering_status,
      decision, List.forall_mem_cons]
    refine ⟨⟨by simp [Effect.checks, Gate.check], by simp [Effect.checks], by simp⟩, ?_⟩
    rw [Context.standing_settle _ (by simp [role])]
    subst stands
    exact Context.standing_decideSuite context supported gated inside ahead

/-- A case that sends everything by its script. -/
theorem scripted {before after : Standing → σ → Prop} (role : case.precondition = .none)
    (plays : ∀ (start : CaseState) state, before start.context.standing state → start.IsClean →
      start.expected = PlanRun.expectedReturns plan case start.context →
      Carries respond (CaseRun.playScript case case.hooks.execute) start state
        fun _ execution finish last =>
          execution = .handled ∧ finish.IsClean ∧ after finish.context.standing last) :
    Cleanly respond (PlanRun.runCase plan case) CaseReport.IsClean before after := by
  intro carried state holds
  have free : PlanRun.obstacle? case carried.context = none := by
    simp [PlanRun.obstacle?, role]
  have empty : (PlanRun.startOf plan case carried).IsClean :=
    fun check none => absurd none List.not_mem_nil
  rw [PlanRun.carries_runCase plan free, CaseRun.perform?, carries_bind]
  apply (plays _ state holds empty rfl).mono
  intro _ execution finish last ran
  obtain ⟨rfl, clean, stands⟩ := ran
  refine ⟨PlanRun.reportOf_isClean clean, ?_⟩
  rw [Context.standing_settle _ (by simp [role])]
  exact stands

end Cases

end Cleanly

def SuiteReport.IsClean (report : SuiteReport) : Prop :=
  ∀ case ∈ report.cases, case.IsClean

abbrev CaseReport.AllClean (reports : List CaseReport) : Prop :=
  ∀ report ∈ reports, report.IsClean

abbrev SuiteReport.AllClean (reports : List SuiteReport) : Prop :=
  ∀ report ∈ reports, report.IsClean

def ProtocolReport.IsClean (report : ProtocolReport) : Prop :=
  ∀ suite ∈ report.suites, suite.IsClean

theorem RunReport.checksClean_of_forall {report : RunReport}
    (clean : ∀ protocol ∈ report.protocols, protocol.IsClean) : report.ChecksClean :=
  fun protocol member suite inside _ => clean protocol member suite inside

namespace Cleanly

variable {σ : Type w} {respond : Responder σ} {plan : Plan}
  {before middle after : Standing → σ → Prop}

theorem weaken {α : Type} {run : PlanRun α} {good : α → Prop}
    (runs : Cleanly respond run good before middle)
    (follows : ∀ standing state, middle standing state → after standing state) :
    Cleanly respond run good before after := by
  intro carried state holds
  exact (runs carried state holds).mono fun _ _ _ _ ran => ⟨ran.1, follows _ _ ran.2⟩

theorem runCases_nil (position : Nat) :
    Cleanly respond (PlanRun.runCases plan [] position) CaseReport.AllClean before before := by
  intro carried state holds
  rw [PlanRun.carries_runCases_nil]
  exact ⟨fun report none => absurd none List.not_mem_nil, holds⟩

theorem runCases_cons {case : Case} {rest : List Case} (position : Nat)
    (first : Cleanly respond (PlanRun.runCase plan case) CaseReport.IsClean before middle)
    (others : Cleanly respond (PlanRun.runCases plan rest (position + 1))
      CaseReport.AllClean middle after) :
    Cleanly respond (PlanRun.runCases plan (case :: rest) position)
      CaseReport.AllClean before after := by
  intro carried state holds
  rw [PlanRun.carries_runCases_cons]
  have entered : before (carried.context.enterCase position).standing state := holds
  apply (first { carried with context := carried.context.enterCase position } state
    entered).mono
  intro _ report between next ran
  apply (others between next ran.2).mono
  intro _ reports _ _ ranOthers
  exact ⟨List.forall_mem_cons.mpr ⟨ran.1, ranOthers.1⟩, ranOthers.2⟩

theorem runSuite {suite : Suite} {position : Nat} {standing : Standing} {state : σ}
    (undecided : ∀ decision ∈ standing.frame.decisions, decision.suite ≠ position)
    (cases : Cleanly respond (PlanRun.runCases plan suite.active 0) CaseReport.AllClean
      ({ standing with suite := position }.At state) after) :
    Cleanly respond (PlanRun.runSuite plan suite position) SuiteReport.IsClean
      (standing.At state) after := by
  rintro carried _ ⟨rfl, rfl⟩
  have runs : (carried.context.enterSuite position).mustRun position = true := by
    have none : (carried.context.enterSuite position).decisions.find? (·.suite = position) =
        none :=
      List.find?_eq_none.mpr fun decision member => by simpa using undecided decision member
    simp [Context.mustRun, Context.isSkipped, none]
  rw [PlanRun.carries_runSuite plan suite runs]
  apply (cases _ _ ⟨rfl, rfl⟩).mono
  intro _ reports _ _ ran
  refine ⟨?_, ran.2⟩
  rw [SuiteReport.IsClean, SuiteReport.ofCases_eq]
  exact ran.1

/-- A gated suite does what was decided last. -/
theorem runGated {suite : Suite} {position : Nat} {standing : Standing} {state : σ}
    {mustRun : Bool} (gated : position ≠ standing.frame.discoverySuite)
    (cases : mustRun = true → Cleanly respond (PlanRun.runCases plan suite.active 0)
      CaseReport.AllClean
      (({ standing with suite := position }.decided position mustRun).At state) after)
    (leaves : mustRun = false →
      after ({ standing with suite := position }.decided position mustRun) state) :
    Cleanly respond (PlanRun.runSuite plan suite position) SuiteReport.IsClean
      ((standing.decided position mustRun).At state) after := by
  rintro carried _ ⟨stands, rfl⟩
  have decisions : carried.context.decisions =
      { suite := position, mustRun } :: standing.frame.decisions :=
    congrArg (fun standing => standing.frame.decisions) stands
  have discoverySuite : carried.context.discoverySuite = standing.frame.discoverySuite :=
    congrArg (fun standing => standing.frame.discoverySuite) stands
  have decides : (carried.context.enterSuite position).mustRun position = mustRun := by
    simp [Context.mustRun, Context.isSkipped, Context.enterSuite, decisions, discoverySuite, gated]
  have entered : (carried.context.enterSuite position).standing =
      { standing with suite := position }.decided position mustRun := by
    rw [Context.standing_enterSuite, stands]
    rfl
  cases mustRun with
  | true =>
      rw [PlanRun.carries_runSuite plan suite decides]
      apply (cases rfl _ _ ⟨entered, rfl⟩).mono
      intro _ reports _ _ ran
      refine ⟨?_, ran.2⟩
      rw [SuiteReport.IsClean, SuiteReport.ofCases_eq]
      exact ran.1
  | false =>
      rw [PlanRun.carries_runSuite_of_skipped plan suite decides]
      refine ⟨fun case none => absurd none List.not_mem_nil, ?_⟩
      have same := leaves rfl
      rw [← entered] at same
      exact same

theorem runSuites_nil (position : Nat) :
    Cleanly respond (PlanRun.runSuites plan [] position) SuiteReport.AllClean before before := by
  intro carried state holds
  rw [PlanRun.carries_runSuites_nil]
  exact ⟨fun report none => absurd none List.not_mem_nil, holds⟩

theorem runSuites_cons {suite : Suite} {rest : List Suite} (position : Nat)
    (first : Cleanly respond (PlanRun.runSuite plan suite position) SuiteReport.IsClean before
      middle)
    (others : Cleanly respond (PlanRun.runSuites plan rest (position + 1))
      SuiteReport.AllClean middle after) :
    Cleanly respond (PlanRun.runSuites plan (suite :: rest) position)
      SuiteReport.AllClean before after := by
  intro carried state holds
  rw [PlanRun.carries_runSuites_cons]
  apply (first _ state holds).mono
  intro _ report between next ran
  apply (others between next ran.2).mono
  intro _ reports _ _ ranOthers
  exact ⟨List.forall_mem_cons.mpr ⟨ran.1, ranOthers.1⟩, ranOthers.2⟩

/-- The run of a plan is clean if its suites run cleanly from its first standing. -/
theorem run {fixture : Option Fixture} {state : σ} (token : UInt16)
    (suites : Cleanly respond (PlanRun.runSuites plan plan.suites 0) SuiteReport.AllClean
      ((plan.context fixture).standing.At state) after) :
    (plan.runFrom fixture token).Leads respond state
      fun _ result last =>
        result.1.protocol = plan.protocol ∧ result.1.IsClean ∧
          after result.2.context.standing last := by
  rw [Plan.leads_run]
  apply (suites _ state ⟨rfl, rfl⟩).mono
  intro _ reports finish last ran
  rw [ProtocolReport.IsClean, ProtocolReport.ofSuites_eq]
  exact ⟨rfl, ran⟩

end Cleanly

end PlatformAudit
