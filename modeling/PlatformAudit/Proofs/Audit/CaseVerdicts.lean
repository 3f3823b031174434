import PlatformAudit.Proofs.Audit.CaseEvents
import PlatformAudit.Proofs.Audit.LateCompletion
import PlatformAudit.Proofs.Audit.PlanLogic
import PlatformAudit.Proofs.Plan.CleanChecks

/-!
# Verdicts on cases of checked commands

Most cases send their own command, once or several times, and check what comes back.  What each of
these calls notes follows from the answer and, if a late completion was promised, from what came of
waiting for it.  So the verdict on the case is read off the answers.
-/

universe w

namespace PlatformAudit

open Dialogue

/-- A checked command: its header, its parameters, the immediate answer and, if it was waited for,
the late one. -/
structure CheckedCall where
  header : Header
  parameters : List UInt32
  answer : Answer
  late : Option Answer

namespace CheckedCall

variable (call : CheckedCall)

def exchanges : List Exchange :=
  (.command call.header call.parameters, call.answer)
    :: call.late.toList.map fun answer => (.await .delayedResponse, answer)

/-- The immediate answer, if there is one, has the token of the command. -/
def Echoes : Prop :=
  ∀ response, call.answer = .ok response → response.header.token = call.header.token

/-- The checks of a late completion that was waited for. -/
def lateChecks (descriptors : List Descriptor) (response : Response) : Answer → List Check
  | .error cause => [{ name := "delayed response", outcome := .failed, detail := cause.message }]
  | .ok completion =>
      [ CaseRun.headerCheck response.header completion.header
      , ExpectedStatus.toCheck (.exact .success) "delayed status" completion.status ] ++
        if completion.Succeeded then
          descriptors.map fun descriptor => descriptor.toCheck completion.returns
        else []

/-- The checks of a call: that it failed; or the status, and on success the return words and the
late completion. -/
def checks (case : Case) : List Check :=
  match call.answer with
  | .error cause => [{ name := "send", outcome := .failed, detail := cause.message }]
  | .ok response =>
      case.expectedStatus.toCheck "status" response.status ::
        if response.Succeeded then
          (case.returns.map fun descriptor => descriptor.toCheck response.returns) ++
            match case.delayed, call.late with
            | some descriptors, some answer => lateChecks descriptors response answer
            | _, _ => []
        else []

/-- What makes a call fail. -/
inductive Fails (case : Case) (call : CheckedCall) : Prop where
  | unanswered {cause : LinkError} (answer : call.answer = .error cause)
  | status {response : Response} {status : Status} (answer : call.answer = .ok response)
      (expects : case.expectedStatus = .exact status) (differs : response.status ≠ status.code)
  | returns {response : Response} {descriptor : Descriptor} (answer : call.answer = .ok response)
      (succeeded : response.Succeeded) (among : descriptor ∈ case.returns)
      (failed : (descriptor.evaluate response.returns).1 = .failed)
  | silent {cause : LinkError} (late : call.late = some (.error cause))
  | header {completion : Response} (late : call.late = some (.ok completion))
      (foreign : ¬call.header.CompletedBy completion.header)
  | lateStatus {completion : Response} (late : call.late = some (.ok completion))
      (refused : ¬completion.Succeeded)
  | lateReturns {completion : Response} {descriptors : List Descriptor} {descriptor : Descriptor}
      (late : call.late = some (.ok completion)) (succeeded : completion.Succeeded)
      (expects : case.delayed = some descriptors) (among : descriptor ∈ descriptors)
      (failed : (descriptor.evaluate completion.returns).1 = .failed)

/-- What makes a call go wrong. -/
inductive GoesWrong (case : Case) (call : CheckedCall) : Prop where
  | returns {response : Response} {descriptor : Descriptor} (answer : call.answer = .ok response)
      (succeeded : response.Succeeded) (among : descriptor ∈ case.returns)
      (wrong : (descriptor.evaluate response.returns).1 = .error)
  | lateReturns {completion : Response} {descriptors : List Descriptor} {descriptor : Descriptor}
      (late : call.late = some (.ok completion)) (succeeded : completion.Succeeded)
      (expects : case.delayed = some descriptors) (among : descriptor ∈ descriptors)
      (wrong : (descriptor.evaluate completion.returns).1 = .error)

end CheckedCall

namespace Case

/-- A case leaves to others what to expect, and does nothing of its own with an answer or without
one. -/
structure LeavesChecks (case : Case) : Prop where
  fillExpected : ∀ context, case.hooks.fillExpected context = none
  expectedStatus : ∀ context, case.hooks.expectedStatus context = none
  afterResponse : case.hooks.afterResponse = fun _ => .done ()
  onSilence : case.hooks.onSilence = .done ()

variable {σ : Type w} (respond : Responder σ) (case : Case)

/-- What comes of sending the command of a case. -/
def call (parameters : List UInt32) (token : UInt16) (state : σ) : CheckedCall :=
  let header := CaseRun.nextHeader case case.message token
  let (answer, next) := respond state (.command header parameters)
  { header
    parameters
    answer
    late :=
      match case.delayed, answer with
      | some _, .ok response =>
          if response.Succeeded then some (respond next (.await .delayedResponse)).1 else none
      | _, _ => none }

section

variable {respond case} {parameters : List UInt32} {token : UInt16} {state next : σ}
  {response : Response}

theorem call_unanswered {cause : LinkError}
    (answer : respond state (.command (CaseRun.nextHeader case case.message token) parameters) =
      (.error cause, next)) :
    case.call respond parameters token state =
      { header := CaseRun.nextHeader case case.message token
        parameters
        answer := .error cause
        late := none } := by
  simp [call, answer]

theorem call_answered
    (answer : respond state (.command (CaseRun.nextHeader case case.message token) parameters) =
      (.ok response, next))
    (immediate : case.delayed = none ∨ ¬response.Succeeded) :
    case.call respond parameters token state =
      { header := CaseRun.nextHeader case case.message token
        parameters
        answer := .ok response
        late := none } := by
  rcases immediate with none | refused
  · simp [call, answer, none]
  · cases expects : case.delayed <;> simp [call, answer, refused, expects]

theorem call_promised {descriptors : List Descriptor}
    (answer : respond state (.command (CaseRun.nextHeader case case.message token) parameters) =
      (.ok response, next))
    (expects : case.delayed = some descriptors) (succeeded : response.Succeeded) :
    case.call respond parameters token state =
      { header := CaseRun.nextHeader case case.message token
        parameters
        answer := .ok response
        late := some (respond next (.await .delayedResponse)).1 } := by
  simp [call, answer, expects, succeeded]

end

end Case

/-- A script that, with these answers, makes some calls and notes nothing besides. -/
inductive Script.Makes {σ : Type w} {α : Type} (respond : Responder σ) (case : Case) :
    Script α → UInt16 → Context → σ → List CheckedCall → Prop where
  | done {value : α} {token : UInt16} {context : Context} {state : σ} :
      Makes respond case (.done value) token context state []
  | view {next : CaseView → Script α} {token : UInt16} {context : Context} {state : σ}
      {calls : List CheckedCall}
      (rest : Makes respond case (next { context, expected := case.returns }) token context state
        calls) :
      Makes respond case (.view next) token context state calls
  | perform {effect : Effect} {next : Script α} {token : UInt16} {context : Context} {state : σ}
      {calls : List CheckedCall} (quiet : effect.checks = [])
      (rest : Makes respond case next token (effect.apply context) state calls) :
      Makes respond case (.perform effect next) token context state calls
  | call {parameters : List UInt32} {next : Option Response → Script α} {token : UInt16}
      {context : Context} {state : σ} {calls : List CheckedCall}
      (rest :
        let first := case.call respond parameters token state
        Makes respond case (next first.answer.toOption) (Header.nextToken token) context
          (Responder.after respond state first.exchanges) calls) :
      Makes respond case (.checked { parameters } next) token context state
        (case.call respond parameters token state :: calls)

/-! ### What a call does -/

namespace CaseRun

open CaseState

variable {σ : Type w} {respond : Responder σ} {case : Case} {before : CaseState} {state : σ}

def afterCall (case : Case) (before : CaseState) (call : CheckedCall) : CaseState :=
  { before with
    token := Header.nextToken before.token
    checks := before.checks ++ call.checks case
    lastStatus := (call.answer.toOption.map (·.status)).or before.lastStatus }

theorem checked_of_leaves (leaves : case.LeavesChecks) (expected : before.expected = case.returns)
    (response : Response) :
    checked case none before response =
      (before.answered response).noted
        (answerChecks case.expectedStatus case.returns response) := by
  have status : statusFor case none before.context = case.expectedStatus := by
    simp [statusFor, leaves.expectedStatus]
  rw [checked, status, expected]

/-- A call exchanges and notes what it is to, and leaves everything else as it was. -/
theorem carries_call (leaves : case.LeavesChecks) (expected : before.expected = case.returns)
    (parameters : List UInt32) :
    let call := case.call respond parameters before.token state
    Carries respond (sendChecked case parameters none) before state
      fun exchanges value after _ =>
        exchanges = call.exchanges ∧ value = call.answer.toOption ∧
          after = afterCall case before call := by
  intro call
  rcases answer : respond state (.command (nextHeader case case.message before.token) parameters)
    with ⟨cause | response, next⟩
  · rw [carries_sendChecked_unanswered answer, leaves.onSilence, carries_playPlain_done]
    simp [call, Case.call_unanswered answer, CheckedCall.exchanges, afterCall, CheckedCall.checks,
      unanswered, requestFailed, Except.toOption]
  · by_cases immediate : case.delayed = none ∨ ¬response.Succeeded
    · rw [carries_sendChecked_answered answer immediate, leaves.afterResponse,
        carries_playPlain_done, checked_of_leaves leaves expected]
      simp [call, Case.call_answered answer immediate, CheckedCall.exchanges, afterCall,
        CheckedCall.checks, Except.toOption, answered, noted, answerChecks, returnChecks]
    · obtain ⟨late, refuses⟩ := not_or.mp immediate
      have succeeded : response.Succeeded := Decidable.not_not.mp refuses
      obtain ⟨descriptors, expects⟩ := Option.ne_none_iff_exists'.mp late
      have promised : call = _ := Case.call_promised answer expects succeeded
      rw [carries_sendChecked_promised answer expects succeeded, leaves.afterResponse,
        carries_playPlain_done, checked_of_leaves leaves expected, promised]
      rcases completion : respond next (.await .delayedResponse) with ⟨cause | completion, last⟩
      · rw [carries_awaitCompletion_unanswered completion]
        simp [CheckedCall.exchanges, afterCall, CheckedCall.checks, CheckedCall.lateChecks,
          Except.toOption, answered, noted, answerChecks, returnChecks, requestFailed, expects,
          succeeded]
      · rw [carries_awaitCompletion_answered completion]
        simp [CheckedCall.exchanges, afterCall, CheckedCall.checks, CheckedCall.lateChecks,
          Except.toOption, answered, noted, answerChecks, returnChecks, completionChecks, expects,
          succeeded]

/-- A script that makes calls notes their checks and nothing else. -/
theorem play_makes (leaves : case.LeavesChecks) {α : Type} {script : Script α} {token : UInt16}
    {context : Context} {state : σ} {calls : List CheckedCall}
    (makes : script.Makes respond case token context state calls) (before : CaseState)
    (counted : before.token = token) (seen : before.context = context)
    (expected : before.expected = case.returns) :
    Carries respond (playScript case script) before state
      fun exchanges _ after _ =>
        exchanges = calls.flatMap (·.exchanges) ∧
          after.checks = before.checks ++ calls.flatMap (·.checks case) := by
  -- Nothing in such a script changes what is expected, so every call finds the list of the case.
  induction makes generalizing before with
  | done => exact ⟨rfl, (List.append_nil _).symm⟩
  | view rest induction =>
      simp only [play, carries_bind, carries_get, seen, expected]
      exact induction before counted seen expected
  | perform quiet rest induction =>
      simp only [play, carries_bind, carries_perform]
      apply (induction (before.affected [_]) counted (by simp [seen]) expected).mono
      rintro _ _ after _ ⟨rfl, noted⟩
      exact ⟨rfl, by simp [noted, quiet]⟩
  | call rest induction =>
      subst counted
      simp only [play, carries_bind]
      apply ((carries_call leaves expected _).and (carries_after _ _ _)).mono
      rintro _ _ _ _ ⟨⟨rfl, rfl, rfl⟩, rfl⟩
      apply (induction (afterCall case before _) rfl seen expected).mono
      rintro _ _ after _ ⟨rfl, noted⟩
      refine ⟨rfl, ?_⟩
      rw [noted, afterCall, List.flatMap_cons, List.append_assoc]

end CaseRun

/-! ### What a call comes to -/

namespace CheckedCall

/-- What holds of every call over a link: the answer belongs to the command, and a late completion
is only waited for if the answer has promised one. -/
structure IsSound (case : Case) (call : CheckedCall) : Prop where
  belongs : ∀ response, call.answer = .ok response → call.header.Matches response.header
  promised :
    ∀ answer, call.late = some answer →
      ∃ response descriptors,
        call.answer = .ok response ∧ response.Succeeded ∧ case.delayed = some descriptors

/-- How the check of a call comes about. -/
inductive Notes (case : Case) (call : CheckedCall) : Check → Prop where
  | unanswered {cause : LinkError} (answer : call.answer = .error cause) :
      Notes case call { name := "send", outcome := .failed, detail := cause.message }
  | status {response : Response} (answer : call.answer = .ok response) :
      Notes case call (case.expectedStatus.toCheck "status" response.status)
  | returns {response : Response} {descriptor : Descriptor} (answer : call.answer = .ok response)
      (succeeded : response.Succeeded) (among : descriptor ∈ case.returns) :
      Notes case call (descriptor.toCheck response.returns)
  | silent {cause : LinkError} (late : call.late = some (.error cause)) :
      Notes case call { name := "delayed response", outcome := .failed, detail := cause.message }
  | header {response completion : Response} (answer : call.answer = .ok response)
      (late : call.late = some (.ok completion)) :
      Notes case call (CaseRun.headerCheck response.header completion.header)
  | lateStatus {completion : Response} (late : call.late = some (.ok completion)) :
      Notes case call (ExpectedStatus.toCheck (.exact .success) "delayed status" completion.status)
  | lateReturns {completion : Response} {descriptors : List Descriptor} {descriptor : Descriptor}
      (late : call.late = some (.ok completion)) (succeeded : completion.Succeeded)
      (expects : case.delayed = some descriptors) (among : descriptor ∈ descriptors) :
      Notes case call (descriptor.toCheck completion.returns)

section

variable {case : Case} {call : CheckedCall} {check : Check}

theorem notes_of_mem_lateChecks {response : Response} {descriptors : List Descriptor}
    {late : Answer}
    (answer : call.answer = .ok response) (expects : case.delayed = some descriptors)
    (arrived : call.late = some late) (member : check ∈ lateChecks descriptors response late) :
    call.Notes case check := by
  cases late with
  | error cause =>
      rw [List.mem_singleton.mp member]
      exact .silent arrived
  | ok completion =>
      rcases List.mem_append.mp member with own | inner
      · rcases List.mem_pair.mp own with rfl | rfl
        · exact .header answer arrived
        · exact .lateStatus arrived
      · split at inner
        · obtain ⟨descriptor, among, rfl⟩ := List.mem_map.mp inner
          exact .lateReturns arrived ‹_› expects among
        · cases inner

theorem notes_of_mem (member : check ∈ call.checks case) : call.Notes case check := by
  unfold checks at member
  split at member <;> rename_i answer
  · rw [List.mem_singleton.mp member]
    exact .unanswered answer
  · rcases List.mem_cons.mp member with rfl | inner
    · exact .status answer
    · split at inner <;> rename_i succeeded
      · rcases List.mem_append.mp inner with own | inner
        · obtain ⟨descriptor, among, rfl⟩ := List.mem_map.mp own
          exact .returns answer succeeded among
        · split at inner
          · exact notes_of_mem_lateChecks answer ‹_› ‹_› inner
          · cases inner
      · cases inner

theorem lateChecks_subset (sound : call.IsSound case) {late : Answer}
    (arrived : call.late = some late) :
    ∃ response descriptors,
      call.answer = .ok response ∧ case.delayed = some descriptors ∧
        lateChecks descriptors response late ⊆ call.checks case := by
  obtain ⟨response, descriptors, answer, succeeded, expects⟩ := sound.promised late arrived
  refine ⟨response, descriptors, answer, expects, ?_⟩
  simp only [checks, answer, succeeded, expects, arrived, if_true]
  exact List.subset_cons_of_subset _ (List.subset_append_right _ _)

theorem mem_checks_iff (sound : call.IsSound case) :
    check ∈ call.checks case ↔ call.Notes case check := by
  refine ⟨notes_of_mem, fun notes => ?_⟩
  cases notes with
  | unanswered answer => simp [checks, answer]
  | status answer => simp [checks, answer]
  | returns answer succeeded among =>
      simp only [checks, answer, succeeded, if_true, List.mem_cons, List.mem_append, List.mem_map]
      exact .inr (.inl ⟨_, among, rfl⟩)
  | silent late =>
      obtain ⟨response, descriptors, -, -, inside⟩ := lateChecks_subset sound late
      exact inside (List.mem_singleton_self _)
  | header answer late =>
      obtain ⟨response, descriptors, same, -, inside⟩ := lateChecks_subset sound late
      obtain rfl := Except.ok.inj (answer.symm.trans same)
      exact inside (List.mem_append_left _ List.mem_cons_self)
  | lateStatus late =>
      obtain ⟨response, descriptors, -, -, inside⟩ := lateChecks_subset sound late
      exact inside (List.mem_append_left _ (List.mem_cons_of_mem _ List.mem_cons_self))
  | lateReturns late succeeded expects among =>
      obtain ⟨response, descriptors, -, same, inside⟩ := lateChecks_subset sound late
      obtain rfl := Option.some.inj (expects.symm.trans same)
      refine inside (List.mem_append_right _ ?_)
      rw [if_pos succeeded]
      exact List.mem_map_of_mem among

/-- A call has a failed check exactly if it fails. -/
theorem exists_failed_iff (sound : call.IsSound case) (echoes : call.Echoes) :
    (∃ check ∈ call.checks case, check.outcome = .failed) ↔ call.Fails case := by
  -- The late header is compared with that of the answer, which agrees with that of the command.
  have complete {response completion : Response} (answer : call.answer = .ok response) :
      response.header.CompletedBy completion.header ↔
        call.header.CompletedBy completion.header := by
    rw [CaseRun.completedBy_iff_of_matches (sound.belongs response answer), echoes response answer,
      Header.CompletedBy]
  simp only [mem_checks_iff sound]
  constructor
  · rintro ⟨check, notes, failed⟩
    cases notes with
    | unanswered answer => exact .unanswered answer
    | status answer =>
        obtain ⟨status, expects, differs⟩ := (ExpectedStatus.toCheck_failed_iff _ _ _).mp failed
        exact .status answer expects differs
    | returns answer succeeded among => exact .returns answer succeeded among failed
    | silent late => exact .silent late
    | header answer late =>
        have apart := (CaseRun.headerCheck_failed_iff _ _).mp failed
        exact .header late (mt (complete answer).mpr apart)
    | lateStatus late =>
        obtain ⟨status, same, differs⟩ := (ExpectedStatus.toCheck_failed_iff _ _ _).mp failed
        obtain rfl := ExpectedStatus.exact.inj same
        exact .lateStatus late differs
    | lateReturns late succeeded expects among =>
        exact .lateReturns late succeeded expects among failed
  · intro fails
    cases fails with
    | unanswered answer => exact ⟨_, .unanswered answer, rfl⟩
    | status answer expects differs =>
        exact ⟨_, .status answer,
          (ExpectedStatus.toCheck_failed_iff _ _ _).mpr ⟨_, expects, differs⟩⟩
    | returns answer succeeded among failed => exact ⟨_, .returns answer succeeded among, failed⟩
    | silent late => exact ⟨_, .silent late, rfl⟩
    | header late foreign =>
        obtain ⟨response, -, answer, -⟩ := sound.promised _ late
        exact ⟨_, .header answer late,
          (CaseRun.headerCheck_failed_iff _ _).mpr (mt (complete answer).mp foreign)⟩
    | lateStatus late refused =>
        exact ⟨_, .lateStatus late,
          (ExpectedStatus.toCheck_failed_iff _ _ _).mpr ⟨_, rfl, refused⟩⟩
    | lateReturns late succeeded expects among failed =>
        exact ⟨_, .lateReturns late succeeded expects among, failed⟩

/-- A call has a check that went wrong exactly if it goes wrong. -/
theorem exists_error_iff (sound : call.IsSound case) :
    (∃ check ∈ call.checks case, check.outcome = .error) ↔ call.GoesWrong case := by
  simp only [mem_checks_iff sound]
  constructor
  · rintro ⟨check, notes, wrong⟩
    cases notes with
    | unanswered answer => cases wrong
    | status answer => exact absurd wrong (ExpectedStatus.toCheck_ne_error _ _ _)
    | returns answer succeeded among => exact .returns answer succeeded among wrong
    | silent late => cases wrong
    | header answer late => exact absurd wrong (CaseRun.headerCheck_ne_error _ _)
    | lateStatus late => exact absurd wrong (ExpectedStatus.toCheck_ne_error _ _ _)
    | lateReturns late succeeded expects among =>
        exact .lateReturns late succeeded expects among wrong
  · intro wrong
    cases wrong with
    | returns answer succeeded among wrong => exact ⟨_, .returns answer succeeded among, wrong⟩
    | lateReturns late succeeded expects among wrong =>
        exact ⟨_, .lateReturns late succeeded expects among, wrong⟩

theorem exists_made (case : Case) (call : CheckedCall) :
    ∃ check ∈ call.checks case, check.outcome ≠ .skip := by
  unfold checks
  split
  · exact ⟨_, List.mem_singleton_self _, nofun⟩
  · exact ⟨_, List.mem_cons_self, ExpectedStatus.toCheck_outcome_ne_skip _ _ _⟩

end

end CheckedCall

namespace Case

variable {σ : Type w} {link : Link σ} {case : Case}

theorem call_isSound (link : Link σ) (case : Case) (parameters : List UInt32) (token : UInt16)
    (state : σ) : (case.call link.answer parameters token state).IsSound case := by
  rcases answer : link.answer state (.command (CaseRun.nextHeader case case.message token) parameters)
    with ⟨cause | response, next⟩
  · rw [call_unanswered answer]
    exact ⟨nofun, nofun⟩
  · have belongs := link.matches_of_answer answer
    by_cases immediate : case.delayed = none ∨ ¬response.Succeeded
    · rw [call_answered answer immediate]
      exact ⟨fun other same => Except.ok.inj same ▸ belongs, nofun⟩
    · obtain ⟨late, refuses⟩ := not_or.mp immediate
      have succeeded : response.Succeeded := Decidable.not_not.mp refuses
      obtain ⟨descriptors, expects⟩ := Option.ne_none_iff_exists'.mp late
      rw [call_promised answer expects succeeded]
      exact ⟨fun other same => Except.ok.inj same ▸ belongs,
        fun _ _ => ⟨response, descriptors, rfl, succeeded, expects⟩⟩

theorem sound_of_makes {α : Type} {script : Script α} {token : UInt16} {context : Context}
    {state : σ}
    {calls : List CheckedCall}
    (makes : script.Makes link.answer case token context state calls) :
    ∀ call ∈ calls, call.IsSound case := by
  induction makes with
  | done => exact List.forall_mem_nil _
  | view rest induction => exact induction
  | perform quiet rest induction => exact induction
  | call rest induction => exact List.forall_mem_cons.mpr ⟨call_isSound link case _ _ _, induction⟩

theorem makes_fixed (respond : Responder σ) (standard : case.hooks.execute = .done .standard)
    {values : List UInt32} (fixed : case.parameters = .fixed values)
    (inRange : ∀ slot ∈ case.invalidSlot, slot.val < values.length) (token : UInt16)
    (context : Context) (state : σ) :
    let parameters :=
      case.invalidSlot.elim values fun slot => values.set slot.val (case.hooks.invalidValue context)
    case.script.Makes respond case token context state
      [case.call respond parameters token state] := by
  intro parameters
  have given : CaseRun.fixedParameters case context = .ok parameters := by
    simp only [CaseRun.fixedParameters, fixed, parameters]
    cases chosen : case.invalidSlot with
    | none => rfl
    | some slot => simp [inRange slot chosen]
  rw [script, standard]
  apply Script.Makes.view
  dsimp only
  rw [given]
  exact .call .done

/-- What a case comes to that makes calls and leaves the checks to them.  Its exchanges and its
checks are those of the calls, one after the other.  It does not conform exactly if a call fails; it
is undefined exactly if none fails and one goes wrong; otherwise it conforms.  A case with a fixed
command is of this kind, with a single call. -/
theorem runCase_of_calls (link : Link σ) (plan : Plan) (case : Case) (carried : PlanState)
    (state : σ) (leaves : case.LeavesChecks)
    (noFiller : plan.fillExpected case.message carried.context = none)
    (free : PlanRun.obstacle? case carried.context = none) :
    (∀ values, case.hooks.execute = .done .standard → case.parameters = .fixed values →
      (∀ slot ∈ case.invalidSlot, slot.val < values.length) →
      case.script.Makes link.answer case carried.token carried.context state
        [ case.call link.answer
            (case.invalidSlot.elim values fun slot =>
              values.set slot.val (case.hooks.invalidValue carried.context))
            carried.token state ]) ∧
    ∀ calls, calls ≠ [] →
      case.script.Makes link.answer case carried.token carried.context state calls →
      (∀ call ∈ calls, call.Echoes) →
      Carries link.answer (PlanRun.runCase plan case) carried state
        fun exchanges report _ _ =>
          exchanges = calls.flatMap (·.exchanges) ∧
          report.checks = calls.flatMap (·.checks case) ∧
          (report.verdict = .nonConformant ↔ ∃ call ∈ calls, call.Fails case) ∧
          (report.verdict = .undefined ↔
            (¬∃ call ∈ calls, call.Fails case) ∧ ∃ call ∈ calls, call.GoesWrong case) ∧
          (report.verdict = .conformant ↔
            (¬∃ call ∈ calls, call.Fails case) ∧ ¬∃ call ∈ calls, call.GoesWrong case) := by
  refine ⟨fun values standard fixed inRange => makes_fixed _ standard fixed inRange _ _ _, ?_⟩
  intro calls some makes echoes
  have sound := sound_of_makes makes
  have expected : (PlanRun.startOf plan case carried).expected = case.returns := by
    simp [PlanRun.startOf, PlanRun.expectedReturns, leaves.fillExpected, noFiller]
  rw [PlanRun.carries_runCase plan free, CaseRun.perform?_eq_playScript]
  apply (CaseRun.play_makes leaves makes (PlanRun.startOf plan case carried) rfl rfl expected).mono
  rintro _ _ finish _ ⟨rfl, noted⟩
  have checks : finish.checks = calls.flatMap (·.checks case) := noted
  have among (outcome : Verdict) : (∃ check ∈ finish.checks, check.outcome = outcome) ↔
      ∃ call ∈ calls, ∃ check ∈ call.checks case, check.outcome = outcome := by
    rw [checks]
    constructor
    · rintro ⟨check, member, same⟩
      obtain ⟨call, inside, noted⟩ := List.mem_flatMap.mp member
      exact ⟨call, inside, check, noted, same⟩
    · rintro ⟨call, inside, check, noted, same⟩
      exact ⟨check, List.mem_flatMap.mpr ⟨call, inside, noted⟩, same⟩
  have failed : (∃ check ∈ finish.checks, check.outcome = .failed) ↔
      ∃ call ∈ calls, call.Fails case := by
    rw [among]
    exact exists_congr fun call => and_congr_right fun member =>
      CheckedCall.exists_failed_iff (sound call member) (echoes call member)
  have wrong : (∃ check ∈ finish.checks, check.outcome = .error) ↔
      ∃ call ∈ calls, call.GoesWrong case := by
    rw [among]
    exact exists_congr fun call => and_congr_right fun member =>
      CheckedCall.exists_error_iff (sound call member)
  have made : ∃ check ∈ finish.checks, check.outcome ≠ .skip := by
    obtain ⟨call, member⟩ := List.exists_mem_of_ne_nil calls some
    obtain ⟨check, inside, kept⟩ := CheckedCall.exists_made case call
    rw [checks]
    exact ⟨check, List.mem_flatMap.mpr ⟨call, member, inside⟩, kept⟩
  rw [← failed, ← wrong]
  exact ⟨rfl, checks, CaseReport.classify_eq_nonConformant_iff _,
    CaseReport.classify_eq_undefined_iff _, CaseReport.classify_eq_conformant_iff made⟩

/-- A platform that returns what it was given and promises a completion each time. -/
def echoBoard : Switchboard Scripted where
  handlers :=
    ProtocolMap.empty.insert 9
      { rules :=
          [ { echo := true
              delayed := [{ edit := {}, status := Status.success.code, returns := [1] }] } ] }

/-- A case that sends its command twice, with different parameters. -/
def twiceCase : Case where
  id := "twice"
  protocol := 9
  message := 1
  returns := [.check (.word "value" 0) 7]
  delayed := some [.display (.word "late" 0)]
  hooks :=
    { execute :=
        (Script.checkedCommand [7]).bind fun _ =>
          (Script.checkedCommand [8]).bind fun _ => .done .handled }

def echoedCall (token : UInt16) (value : UInt32) : CheckedCall where
  header := { token, protocol := 9, message := 1 }
  parameters := [value]
  answer :=
    .ok
      { header := { token, protocol := 9, message := 1 }
        status := Status.success.code
        returns := [value] }
  late :=
    some (.ok
      { header := { token, protocol := 9, kind := .delayedResponse, message := 1 }
        status := Status.success.code
        returns := [1] })

/-- The second of two calls fails, which decides; the checks of both calls are there. -/
theorem runCase_of_calls_twice :
    let link : Link (Switchboard Scripted) := Switchboard.link
    let plan : Plan := { protocol := 9, name := "twice", suites := [] }
    let carried : PlanState := { token := 0, context := .start 9 "twice" ["twice"] 0 none }
    let calls := [echoedCall 0 7, echoedCall 1 8]
    let report :=
      ((PlanRun.runCase plan twiceCase carried).run link.answer echoBoard
        { sink := .nowhere }).value.1
    twiceCase.LeavesChecks ∧
      twiceCase.script.Makes link.answer twiceCase 0 carried.context echoBoard calls ∧
      (∀ call ∈ calls, call.Echoes) ∧
      report.verdict = .nonConformant ∧
      report.checks.map (·.name) =
        [ "status", "value", "delayed header", "delayed status", "late"
        , "status", "value", "delayed header", "delayed status", "late" ] := by
  intro link plan carried calls report
  have leaves : twiceCase.LeavesChecks := ⟨fun _ => rfl, fun _ => rfl, rfl, rfl⟩
  have makes : twiceCase.script.Makes link.answer twiceCase 0 carried.context echoBoard calls := by
    have first : twiceCase.call link.answer [7] 0 echoBoard = echoedCall 0 7 := by rfl
    have second : twiceCase.call link.answer [8] 1 echoBoard = echoedCall 1 8 := by rfl
    have between :
        Responder.after link.answer echoBoard (echoedCall 0 7).exchanges = echoBoard := by rfl
    unfold calls
    rw [← first, ← second]
    refine .call ?_
    dsimp only
    rw [first, between]
    exact .call .done
  have echoes : ∀ call ∈ calls, call.Echoes := by
    have echoed (token : UInt16) (value : UInt32) : (echoedCall token value).Echoes := by
      intro response answer
      cases answer
      rfl
    exact List.forall_mem_cons.mpr ⟨echoed 0 7, List.forall_mem_singleton.mpr (echoed 1 8)⟩
  -- The platform is only looked at through the calls, so that its run need not be computed.
  have told (link : Link (Switchboard Scripted)) (board : Switchboard Scripted)
      (makes : twiceCase.script.Makes link.answer twiceCase 0 carried.context board calls) :
      let report :=
        ((PlanRun.runCase plan twiceCase carried).run link.answer board
          { sink := .nowhere }).value.1
      report.checks = calls.flatMap (·.checks twiceCase) ∧ report.verdict = .nonConformant := by
    have runs := (runCase_of_calls link plan twiceCase carried board leaves rfl rfl).2 calls
      (List.cons_ne_nil _ _) makes echoes
    obtain ⟨-, checks, verdict, -, -⟩ := (leads_iff _ _ { sink := .nowhere } _).mp runs
    have fails : (echoedCall 1 8).Fails twiceCase :=
      .returns rfl rfl List.mem_cons_self (by decide)
    exact ⟨checks, verdict.mpr ⟨echoedCall 1 8, by simp [calls], fails⟩⟩
  obtain ⟨checks, verdict⟩ := told link echoBoard makes
  refine ⟨leaves, makes, echoes, verdict, ?_⟩
  rw [checks]
  decide +kernel

end Case

end PlatformAudit
