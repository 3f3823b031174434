import PlatformAudit.Proofs.Audit.Turns

/-!
# Findings

What a case has found stays as it is as long as later cases do not touch it.  A case that goes
through what was found sends one command for each finding, in order, whatever the answers are.
-/

universe w

namespace PlatformAudit

open Dialogue

namespace Discovery

def Edit.name : Edit → String
  | .record name _ | .extend name _ | .setValue name _ => name

theorem lookup?_assign {α : Type} (name other : String) (value : α)
    (entries : List (String × α)) :
    lookup? name (assign other value entries) =
      if other = name then some value else lookup? name entries := by
  induction entries with
  | nil => by_cases same : other = name <;> simp [assign, lookup?, same]
  | cons entry rest induction =>
      rw [assign]
      by_cases here : entry.1 = other
      · rw [if_pos here]
        by_cases same : other = name <;> simp [lookup?, here, same]
      · rw [if_neg here]
        by_cases found : entry.1 = name
        · have distinct : ¬other = name := fun same => here (found.trans same.symm)
          simp [lookup?, found, distinct]
        · simpa [lookup?, found] using induction

variable (findings : Discovery) (name : String)

theorem list_record (ids : List UInt32) : (findings.edit (.record name ids)).list name = ids := by
  simp [edit, list, lookup?_assign]

theorem value?_setValue (other : String) (value : UInt32) :
    (findings.edit (.setValue other value)).value? name =
      if other = name then some value else findings.value? name :=
  lookup?_assign name other value findings.values

@[simp] theorem value?_record (other : String) (ids : List UInt32) :
    (findings.edit (.record other ids)).value? name = findings.value? name := rfl

variable {findings} {name}

theorem value?_edit {edit : Edit} (other : edit.name ≠ name) :
    (findings.edit edit).value? name = findings.value? name := by
  cases edit with
  | record _ ids => rfl
  | extend _ ids => rfl
  | setValue _ value => exact (value?_setValue findings name _ value).trans (if_neg other)

theorem list_edit {edit : Edit} (other : edit.name ≠ name) :
    (findings.edit edit).list name = findings.list name := by
  cases edit with
  | record _ ids =>
      rw [list, Discovery.edit, lookup?_assign]
      exact congrArg (Option.getD · []) (if_neg other)
  | extend _ ids =>
      rw [list, Discovery.edit, lookup?_assign]
      exact congrArg (Option.getD · []) (if_neg other)
  | setValue _ value => rfl

end Discovery

/-- Two contexts with the same fixture and the same findings of some names. -/
structure Context.Agree (names : List String) (first second : Context) : Prop where
  fixture : second.fixture = first.fixture
  value? : ∀ name ∈ names, second.discovered.value? name = first.discovered.value? name
  list : ∀ name ∈ names, second.discovered.list name = first.discovered.list name

namespace Context.Agree

variable {names : List String} {first second third : Context}

theorem refl (context : Context) : context.Agree names context :=
  ⟨rfl, fun _ _ => rfl, fun _ _ => rfl⟩

theorem trans (one : first.Agree names second) (two : second.Agree names third) :
    first.Agree names third where
  fixture := two.fixture.trans one.fixture
  value? name member := (two.value? name member).trans (one.value? name member)
  list name member := (two.list name member).trans (one.list name member)

theorem of_discovered (fixture : second.fixture = first.fixture)
    (discovered : second.discovered = first.discovered) : first.Agree names second := by
  constructor
  · exact fixture
  · intro name _
    rw [discovered]
  · intro name _
    rw [discovered]

theorem discover {edit : Discovery.Edit} (other : edit.name ∉ names) (context : Context) :
    context.Agree names (context.discover edit) where
  fixture := rfl
  value? _ member := Discovery.value?_edit fun same => other (same ▸ member)
  list _ member := Discovery.list_edit fun same => other (same ▸ member)

theorem decideSuite (context : Context) (suite : Nat) (mustRun : Bool) :
    context.Agree names (context.decideSuite suite mustRun) := by
  rw [Context.decideSuite_eq]
  split
  · exact of_discovered rfl rfl
  · exact refl context

theorem settle (case : Case) (verdict : Verdict) (status : Option Int32) (context : Context) :
    context.Agree names (PlanRun.settle case verdict status context) := by
  apply of_discovered
  · unfold PlanRun.settle
    cases case.precondition <;> rfl
  · exact PlanRun.discovered_settle case verdict status context

theorem goesOn {earlier later : PlanState} (goesOn : earlier.GoesOn later) :
    earlier.context.Agree names later.context := by
  apply of_discovered
  · rw [goesOn.context]
  · exact goesOn.discovered_eq

end Context.Agree

/-- What cases may do that leave the findings of some names alone. -/
def Licence.sparing (names : List String) : Licence where
  effect effect := ∀ edit, effect = .discover edit → edit.name ∉ names
  command _ _ := True
  checks _ _ := Effect.noConfusion

section Sparing

variable {σ : Type w} {respond : Responder σ} {names : List String} {plan : Plan}

theorem Context.Agree.apply {context : Context} {effect : Effect}
    (licensed : (Licence.sparing names).effect effect) :
    context.Agree names (effect.apply context) := by
  cases effect with
  | check check => exact .refl context
  | decide suite mustRun => exact .decideSuite context suite mustRun
  | discover edit => exact .discover (licensed edit rfl) context

theorem PlanRun.episode_sparing {case : Case} (within : case.Within (.sparing names))
    (carried : PlanState) (state : σ) :
    carried.context.Agree names (episode respond plan case carried state).after.context := by
  refine episode_keeps ?_ ?_ within (.refl carried.context) state
  · exact fun effect context licensed agree => agree.trans (.apply licensed)
  · exact fun case verdict status context agree => agree.trans (.settle case verdict status context)

/-- What was found by some cases is found where a later one begins, if the cases in between leave it
alone. -/
theorem Plan.agree_between (fixture : Option Fixture) (token : UInt16) (state : σ)
    {before middle behind : List Episode} {found : Episode}
    (split : plan.turns respond fixture token state = before ++ middle ++ found :: behind)
    (spares : ∀ episode ∈ middle, episode.case.Within (.sparing names)) :
    (PlanState.behind { token, context := plan.context fixture } before).context.Agree names
      found.start.context := by
  let known := (PlanState.behind { token, context := plan.context fixture } before).context
  have moves {earlier later : PlanState} (goesOn : earlier.GoesOn later)
      (agree : known.Agree names earlier.context) : known.Agree names later.context :=
    agree.trans (.goesOn goesOn)
  apply Plan.holds_between respond fixture token state moves split (.refl known)
  intro episode member carried reached agree
  exact agree.trans (PlanRun.episode_sparing (spares episode member) carried reached)

end Sparing

/-! ### Commands of a case -/

namespace CaseRun

/-- The commands that ask for some findings, one after the other. -/
def asksFor (case : Case) (token : UInt16) : List UInt32 → List Request
  | [] => []
  | id :: rest =>
      .command (nextHeader case case.message token) [id] ::
        asksFor case (Header.nextToken token) rest

/-- What is noted about a command that has to succeed. -/
def looksAt (descriptors : List Descriptor) : Answer → List Check
  | .ok response => answerChecks (.exact .success) descriptors response
  | .error cause => [requestFailed "send" cause]

/-- What is noted about the commands that ask for some findings: each answer is looked at for what
belongs to its finding. -/
def looksAtEach (describe : UInt32 → List Descriptor) (ids : List UInt32)
    (exchanges : List Exchange) : List Check :=
  (ids.zip exchanges).flatMap fun found => looksAt (describe found.1) found.2.2

end CaseRun

/-- A script that asks for each finding and looks at what belongs to it. -/
def Script.askForFound (entity name detail : String)
    (describe : Context → UInt32 → List Descriptor) : Script Execution :=
  Course.context.bind fun context =>
    match context.discovered.list entity with
    | [] => (Course.note name .skip detail).bind fun _ => .done .handled
    | ids =>
        (Course.forEach ids fun id =>
          .expect (describe context id) <|
            (Script.checkedCommand [id]).bind fun _ => .done ()).bind fun _ =>
          .done .handled

/-- What is made of a context by what is kept of an answer, if there is one. -/
def CaseRun.learned (keeps : Response → List Effect) (context : Context) : Answer → Context
  | .ok response => (keeps response).foldl Effect.apply context
  | .error _ => context

/-- A case that sends a fixed command, waits for nothing else than its answer, and keeps something
of it. -/
structure Case.IsFixed (case : Case) (keeps : Response → List Effect) : Prop where
  precondition : case.precondition = .none
  execute : case.hooks.execute = .done .standard
  afterResponse : case.hooks.afterResponse = fun response => .performs (keeps response)
  onSilence : case.hooks.onSilence = .done ()
  delayed : case.delayed = none

theorem Case.IsFixed.keepsNothing {case : Case} (precondition : case.precondition = .none)
    (execute : case.hooks.execute = .done .standard)
    (afterResponse : case.hooks.afterResponse = fun _ => .done ())
    (onSilence : case.hooks.onSilence = .done ()) (delayed : case.delayed = none) :
    case.IsFixed fun _ => [] :=
  ⟨precondition, execute, afterResponse, onSilence, delayed⟩

/-- A case that has to succeed, and that adds nothing to a script. -/
structure Case.IsScripted (case : Case) (script : Script Execution) : Prop where
  precondition : case.precondition = .none
  expectedStatus : case.expectedStatus = .exact .success
  delayed : case.delayed = none
  hooks : case.hooks = { execute := script }

namespace Episode

variable (episode : Episode)

/-- One command is sent for each finding, whatever the answers to others are, and the answer is
compared with what belongs to its finding alone.  Without findings nothing is sent. -/
structure GoesThrough (ids : List UInt32) (describe : UInt32 → List Descriptor) : Prop where
  asks : episode.exchanges.map (·.1) = CaseRun.asksFor episode.case episode.start.token ids
  looks : ids ≠ [] → episode.report.checks = CaseRun.looksAtEach describe ids episode.exchanges
  passes : ids = [] → (∃ check, episode.report.checks = [check] ∧ check.outcome = .skip) ∧
    episode.report.verdict = .untested

def SendsOnly (parameters : List UInt32) : Prop :=
  ∃ answer, episode.exchanges =
    [(.command (CaseRun.nextHeader episode.case episode.case.message episode.start.token) parameters,
      answer)]

end Episode

section Commands

variable {σ : Type w} {respond : Responder σ} {case : Case}

namespace CaseRun

private theorem carries_askFor {script : Script Execution} (scripted : case.IsScripted script)
    (expected : List Descriptor) (id : UInt32) (before : CaseState) (state : σ) :
    Carries respond
      (playScript case (.expect expected <| (Script.checkedCommand [id]).bind fun _ => .done ()))
      before state
      fun exchanges _ after _ => ∃ answer,
        exchanges = [(.command (nextHeader case case.message before.token) [id], answer)] ∧
          after.token = Header.nextToken before.token ∧
            after.checks = before.checks ++ looksAt expected answer := by
  have status : statusFor case none before.context = .exact .success := by
    simp [statusFor, scripted.hooks, scripted.expectedStatus]
  let expecting : CaseState := { before with expected }
  simp only [Script.checkedCommand, Course.bind, play, carries_bind, carries_modify, carries_pure,
    List.append_nil, List.nil_append]
  rcases answer : respond state (.command (nextHeader case case.message expecting.token) [id]) with
    ⟨cause | response, next⟩
  · rw [carries_sendChecked_unanswered answer, scripted.hooks, carries_playPlain_done]
    exact ⟨_, rfl, rfl, rfl⟩
  · rw [carries_sendChecked_answered answer (.inl scripted.delayed), scripted.hooks,
      carries_playPlain_done]
    refine ⟨_, rfl, rfl, ?_⟩
    simp [looksAt, checked, status, expecting]

/-- Each finding has its command and its checks, whatever came of the ones before. -/
private theorem carries_askForEach {script : Script Execution} (scripted : case.IsScripted script)
    (describe : UInt32 → List Descriptor) (ids : List UInt32) (before : CaseState) (state : σ) :
    Carries respond
      (playScript case (Course.forEach ids fun id =>
        .expect (describe id) <| (Script.checkedCommand [id]).bind fun _ => .done ()))
      before state
      fun exchanges _ after _ =>
        exchanges.map (·.1) = asksFor case before.token ids ∧
          after.checks = before.checks ++ looksAtEach describe ids exchanges := by
  induction ids generalizing before state with
  | nil => simp [Course.forEach, asksFor, looksAtEach]
  | cons id rest induction =>
      rw [Course.forEach, carries_playScript_bind]
      apply (carries_askFor scripted (describe id) id before state).mono
      rintro _ _ between middle ⟨answer, rfl, sent, checks⟩
      apply (induction between middle).mono
      rintro exchanges _ after _ ⟨asks, looks⟩
      constructor
      · rw [List.singleton_append, List.map_cons, asks, sent]
        rfl
      · rw [looks, checks, List.append_assoc]
        rfl

end CaseRun

namespace PlanRun

variable {plan : Plan} {carried : PlanState}

theorem episode_goesThrough {entity name detail : String}
    {describe : Context → UInt32 → List Descriptor}
    (scripted : case.IsScripted (.askForFound entity name detail describe)) (state : σ) :
    (episode respond plan case carried state).GoesThrough (carried.context.discovered.list entity)
      (describe carried.context) := by
  have free : obstacle? case carried.context = none := by
    rw [obstacle?, scripted.precondition]
  have execute : case.hooks.execute = .askForFound entity name detail describe := by
    rw [scripted.hooks]
  suffices carries : Carries respond (runCase plan case) carried state
      fun exchanges report _ _ =>
        exchanges.map (·.1) =
            CaseRun.asksFor case carried.token (carried.context.discovered.list entity) ∧
          (carried.context.discovered.list entity ≠ [] → report.checks =
            CaseRun.looksAtEach (describe carried.context)
              (carried.context.discovered.list entity) exchanges) ∧
          (carried.context.discovered.list entity = [] →
            (∃ check, report.checks = [check] ∧ check.outcome = .skip) ∧
              report.verdict = .untested) by
    obtain ⟨asks, looks, passes⟩ := episode_of_carries carries
    exact ⟨asks, looks, passes⟩
  rw [carries_runCase plan free, CaseRun.perform?, carries_bind, execute, Script.askForFound,
    CaseRun.carries_playScript_context, startOf_context]
  cases found : carried.context.discovered.list entity with
  | nil =>
      simp only [Course.note, Course.bind, CaseRun.play, carries_bind, CaseRun.carries_perform,
        carries_pure, List.append_nil]
      refine ⟨rfl, fun some => absurd rfl some, fun _ => ⟨⟨_, rfl, rfl⟩, rfl⟩⟩
  | cons id rest =>
      dsimp only
      rw [CaseRun.carries_playScript_bind]
      apply (CaseRun.carries_askForEach scripted (describe carried.context) (id :: rest) _ _).mono
      rintro exchanges _ after _ ⟨asks, looks⟩
      simp only [CaseRun.play, carries_pure, List.append_nil]
      exact ⟨asks, fun _ => looks, fun none => absurd none (List.cons_ne_nil id rest)⟩

variable (respond plan) in
/-- A case with a fixed command sends it once, and goes on with what it makes of the answer. -/
theorem runCase_sends {keeps : Response → List Effect} (fixed : case.IsFixed keeps)
    {parameters : List UInt32}
    (sends : CaseRun.fixedParameters case carried.context = .ok parameters) (state : σ) :
    Carries respond (runCase plan case) carried state
      fun exchanges _ after _ =>
        let request :=
          Request.command (CaseRun.nextHeader case case.message carried.token) parameters
        exchanges = [(request, (respond state request).1)] ∧
          ∃ verdict status, after.context =
            settle case verdict status
              (CaseRun.learned keeps carried.context (respond state request).1) := by
  have free : obstacle? case carried.context = none := by
    rw [obstacle?, fixed.precondition]
  rw [carries_runCase plan free]
  simp only [CaseRun.perform?, fixed.execute, CaseRun.play, carries_bind, carries_pure,
    CaseRun.sendFixed, carries_get, startOf_context, sends]
  have counted : (startOf plan case carried).token = carried.token := rfl
  rw [← counted]
  rcases answer : respond state (.command
    (CaseRun.nextHeader case case.message (startOf plan case carried).token) parameters) with
    ⟨cause | response, next⟩
  · rw [CaseRun.carries_sendChecked_unanswered answer, fixed.onSilence,
      CaseRun.carries_playPlain_done]
    exact ⟨rfl, _, _, rfl⟩
  · rw [CaseRun.carries_sendChecked_reacted (.performs fixed.afterResponse) answer
      (.inl fixed.delayed)]
    exact ⟨rfl, _, _, rfl⟩

theorem episode_sendsOnly {keeps : Response → List Effect} (fixed : case.IsFixed keeps)
    {parameters : List UInt32}
    (sends : CaseRun.fixedParameters case carried.context = .ok parameters) (state : σ) :
    (episode respond plan case carried state).SendsOnly parameters :=
  ⟨_, (episode_leaves (runCase_sends respond plan fixed sends state)).1⟩

end PlanRun

end Commands

end PlatformAudit
