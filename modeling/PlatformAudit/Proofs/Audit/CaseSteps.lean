import PlatformAudit.Proofs.Audit.CaseLogic

/-!
# The steps of a case

Whatever a case does is a sequence of the steps below, whoever answers.  What a case may do without
the platform and what it may send is read off its script and its hooks, so that a property of all
runs of a case follows from what single steps do.
-/

universe w

namespace PlatformAudit

open Dialogue

/-- What a case may do of its own accord, and which commands it may send with which parameters.  To
record a check is always allowed. -/
structure Licence where
  effect : Effect → Prop
  command : UInt8 → List UInt32 → Prop
  checks : ∀ check, effect (.check check)

namespace Course

variable {κ ι α β : Type}

/-- A course does and sends nothing else than it may. -/
def Within (licence : Licence) (asks : κ → Prop) : Course κ α → Prop
  | .done _ => True
  | .perform effect next => licence.effect effect ∧ next.Within licence asks
  | .expect _ next => next.Within licence asks
  | .view next => ∀ seen, (next seen).Within licence asks
  | .send message parameters next =>
      licence.command message parameters ∧ ∀ answer, (next answer).Within licence asks
  | .await _ next => ∀ answer, (next answer).Within licence asks
  | .checked command next => asks command ∧ ∀ answer, (next answer).Within licence asks

namespace Within

variable {licence : Licence} {asks : κ → Prop}

theorem bind {course : Course κ α} {after : α → Course κ β} (first : course.Within licence asks)
    (second : ∀ value, (after value).Within licence asks) :
    (course.bind after).Within licence asks := by
  induction course with
  | done value => exact second value
  | perform effect next induction => exact ⟨first.1, induction first.2⟩
  | expect expected next induction => exact induction first
  | view next induction => exact fun seen => induction seen (first seen)
  | send message parameters next induction =>
      exact ⟨first.1, fun answer => induction answer (first.2 answer)⟩
  | await late next induction => exact fun answer => induction answer (first answer)
  | checked command next induction =>
      exact ⟨first.1, fun answer => induction answer (first.2 answer)⟩

theorem forEach {items : List ι} {body : ι → Course κ Unit}
    (each : ∀ item ∈ items, (body item).Within licence asks) :
    (Course.forEach items body).Within licence asks := by
  induction items with
  | nil => trivial
  | cons item rest induction =>
      have ofRest := induction fun other member => each other (List.mem_cons_of_mem _ member)
      exact (each item List.mem_cons_self).bind fun _ => ofRest

theorem context {next : Context → Course κ α}
    (each : ∀ context, (next context).Within licence asks) :
    (Course.context.bind next).Within licence asks :=
  fun seen => each seen.context

theorem performs {effects : List Effect} (licensed : ∀ effect ∈ effects, licence.effect effect) :
    (Course.performs effects).Within licence asks := by
  induction effects with
  | nil => trivial
  | cons effect rest induction =>
      exact ⟨licensed effect List.mem_cons_self,
        induction fun other member => licensed other (List.mem_cons_of_mem _ member)⟩

theorem reacts {made : Context → List Effect}
    (licensed : ∀ context, ∀ effect ∈ made context, licence.effect effect) :
    (Course.reacts made).Within licence asks :=
  fun seen => .performs (licensed seen.context)

theorem noteAll (checks : List Check) : (Course.noteAll checks).Within licence asks := by
  refine .performs ?_
  rw [List.forall_mem_map]
  exact fun check _ => licence.checks check

/-- Checked commands that keep to a licence may be put in their places. -/
theorem expand {puts : ι → Course κ (Option Response)} {course : Course ι α} {opens : ι → Prop}
    (each : ∀ command, opens command → (puts command).Within licence asks)
    (inside : course.Within licence opens) : (course.expand puts).Within licence asks := by
  induction course with
  | done value => trivial
  | perform effect next induction => exact ⟨inside.1, induction inside.2⟩
  | expect expected next induction => exact induction inside
  | view next induction => exact fun seen => induction seen (inside seen)
  | send message parameters next induction =>
      exact ⟨inside.1, fun answer => induction answer (inside.2 answer)⟩
  | await late next induction => exact fun answer => induction answer (inside answer)
  | checked command next induction =>
      exact (each command inside.1).bind fun answer => induction answer (inside.2 answer)

end Within

end Course

/-- A script of a case with the given message does and sends nothing else than it may. -/
abbrev Script.Within {α : Type} (licence : Licence) (message : UInt8) (script : Script α) : Prop :=
  Course.Within licence (fun command => licence.command message command.parameters) script

abbrev PlainCourse.Within {α : Type} (licence : Licence) (course : PlainCourse α) : Prop :=
  Course.Within licence (fun _ => False) course

/-- A case does and sends nothing else than it may. -/
structure Case.Within (licence : Licence) (case : Case) : Prop where
  execute : case.hooks.execute.Within licence case.message
  afterResponse : ∀ response, (case.hooks.afterResponse response).Within licence
  onSilence : case.hooks.onSilence.Within licence
  fixed :
    ∀ context parameters, CaseRun.fixedParameters case context = .ok parameters →
      licence.command case.message parameters

namespace CaseRun

open CaseState

variable {licence : Licence} {case : Case}

theorem awaitPromised_within (case : Case) (response : Response) :
    (awaitPromised case response).Within licence := by
  unfold awaitPromised
  split
  · trivial
  · split
    · rintro (_ | completion)
      · trivial
      · exact .noteAll _
    · trivial

theorem checkAnswer_within (status : ExpectedStatus) (response : Response) :
    (checkAnswer status response).Within licence := by
  refine .bind ⟨licence.checks _, trivial⟩ fun _ => ?_
  split
  · exact .bind (fun _ => trivial) fun _ => .bind (.noteAll _) fun _ => trivial
  · trivial

theorem checkedCourse_within (within : case.Within licence) {command : CheckedCommand}
    (licensed : licence.command case.message command.parameters) :
    (checkedCourse case command).Within licence := by
  refine .context fun context => ⟨licensed, ?_⟩
  rintro (_ | response)
  · exact within.onSilence.bind fun _ => trivial
  · refine (checkAnswer_within _ response).bind fun _ => ?_
    refine (within.afterResponse response).bind fun _ => ?_
    exact (awaitPromised_within case response).bind fun _ => trivial

theorem fixedScript_within (within : case.Within licence) :
    case.fixedScript.Within licence case.message := by
  intro seen
  dsimp only
  split
  · exact ⟨licence.checks _, trivial⟩
  · rename_i parameters fixed
    exact ⟨within.fixed _ parameters fixed, fun _ => trivial⟩

theorem course_within (within : case.Within licence) : case.course.Within licence := by
  refine .expand (fun _ licensed => checkedCourse_within within licensed) (within.execute.bind ?_)
  rintro (_ | _)
  · exact fixedScript_within within
  · trivial

/-- One step of a case: the state before, what was asked and answered, and the state after. -/
inductive Step (licence : Licence) (case : Case) :
    CaseState → List Exchange → CaseState → Prop where
  | effect {state : CaseState} {effect : Effect} (licensed : licence.effect effect) :
      Step licence case state [] (state.affected [effect])
  | expect {state : CaseState} (expected : List Descriptor) :
      Step licence case state [] { state with expected }
  | answered {state : CaseState} {message : UInt8} {parameters : List UInt32}
      (licensed : licence.command message parameters) (response : Response) :
      Step licence case state
        [(.command (nextHeader case message state.token) parameters, .ok response)]
        (state.answered response)
  | unanswered {state : CaseState} {message : UInt8} {parameters : List UInt32}
      (licensed : licence.command message parameters) (cause : LinkError) :
      Step licence case state
        [(.command (nextHeader case message state.token) parameters, .error cause)]
        (state.unanswered cause)
  | await {state : CaseState} (late : Late) (answer : Answer) :
      Step licence case state [(.await late, answer)] state

/-- Steps of a case, one after the other. -/
inductive Steps (licence : Licence) (case : Case) :
    CaseState → List Exchange → CaseState → Prop where
  | refl (state : CaseState) : Steps licence case state [] state
  | head {state middle last : CaseState} {first rest : List Exchange}
      (step : Step licence case state first middle) (steps : Steps licence case middle rest last) :
      Steps licence case state (first ++ rest) last

namespace Steps

variable {state middle last : CaseState} {first second : List Exchange}

theorem trans (before : Steps licence case state first middle)
    (after : Steps licence case middle second last) :
    Steps licence case state (first ++ second) last := by
  induction before with
  | refl state => exact after
  | head step _ induction =>
      rw [List.append_assoc]
      exact .head step (induction after)

theorem single (step : Step licence case state first last) :
    Steps licence case state first last := by
  simpa using Steps.head step (.refl last)

/-- What every step keeps is kept by all steps together. -/
theorem keep (invariant : CaseState → Prop)
    (keeps : ∀ {state exchanges after}, Step licence case state exchanges after →
      invariant state → invariant after)
    (steps : Steps licence case state first last) (holds : invariant state) : invariant last := by
  induction steps with
  | refl state => exact holds
  | head step _ induction => exact induction (keeps step holds)

/-- What every effect that is allowed keeps of the context is kept by all steps together. -/
theorem keep_context {holds : Context → Prop}
    (applies : ∀ effect context, licence.effect effect → holds context →
      holds (effect.apply context))
    (steps : Steps licence case state first last) (begins : holds state.context) :
    holds last.context := by
  refine steps.keep (fun reached => holds reached.context) ?_ begins
  intro reached _ next step now
  cases step with
  | effect licensed => exact applies _ _ licensed now
  | expect expected => exact now
  | answered licensed response => exact now
  | unanswered licensed cause => exact now
  | await late answer => exact now

/-- A case sends commands of its protocol only, and of those only the ones that it may send. -/
theorem licensed (steps : Steps licence case state first last) :
    ∀ exchange ∈ first, ∀ header parameters, exchange.1 = .command header parameters →
      header.protocol = case.protocol ∧ licence.command header.message parameters := by
  induction steps with
  | refl state => simp
  | head step _ induction =>
      intro exchange member header parameters command
      rcases List.mem_append.mp member with now | later
      · cases step with
        | effect effect => simp at now
        | expect expected => simp at now
        | answered licensed response =>
            rw [List.mem_singleton.mp now] at command
            obtain ⟨rfl, rfl⟩ := Request.command.inj command
            exact ⟨rfl, licensed⟩
        | unanswered licensed cause =>
            rw [List.mem_singleton.mp now] at command
            obtain ⟨rfl, rfl⟩ := Request.command.inj command
            exact ⟨rfl, licensed⟩
        | await late answer =>
            rw [List.mem_singleton.mp now] at command
            cases command
      · exact induction exchange later header parameters command

end Steps

section Runs

variable {σ : Type w} {respond : Responder σ}

private theorem send_steps {message : UInt8} {parameters : List UInt32}
    (licensed : licence.command message parameters) (before : CaseState) (state : σ) :
    Carries respond (send case message parameters) before state
      fun exchanges _ after _ => Steps licence case before exchanges after := by
  rcases answer : respond state (.command (nextHeader case message before.token) parameters) with
    ⟨cause | response, next⟩
  · rw [carries_send_unanswered answer]
    exact .single (.unanswered licensed cause)
  · rw [carries_send_answered answer]
    exact .single (.answered licensed response)

private theorem await_steps (late : Late) (before : CaseState) (state : σ) :
    Carries respond (await late) before state
      fun exchanges _ after _ => Steps licence case before exchanges after := by
  rcases answer : respond state (.await late) with ⟨cause | response, next⟩
  · rw [carries_await_unanswered answer]
    rw [← affected_checks_eq]
    exact .head (.await late (.error cause)) (.single (.effect (licence.checks _)))
  · rw [carries_await_answered answer]
    exact .single (.await late (.ok response))

theorem play_steps {α : Type} {course : PlainCourse α} (inside : course.Within licence)
    (before : CaseState) (state : σ) :
    Carries respond (playPlain case course) before state
      fun exchanges _ after _ => Steps licence case before exchanges after := by
  induction course generalizing before state with
  | done value => exact .refl before
  | perform effect next induction =>
      simp only [play, carries_bind, carries_perform]
      apply (induction inside.2 _ state).mono
      intro _ _ _ _ later
      exact .head (.effect inside.1) later
  | expect expected next induction =>
      simp only [play, carries_bind, carries_modify]
      apply (induction inside _ state).mono
      intro _ _ _ _ later
      exact .head (.expect expected) later
  | view next induction =>
      simp only [play, carries_bind, carries_get]
      exact induction _ (inside _) before state
  | send message parameters next induction =>
      simp only [play, carries_bind]
      apply (send_steps inside.1 before state).mono
      intro _ answer between middle first
      exact (induction answer (inside.2 answer) between middle).mono
        fun _ _ _ _ second => first.trans second
  | await late next induction =>
      simp only [play, carries_bind]
      apply (await_steps late before state).mono
      intro _ answer between middle first
      exact (induction answer (inside answer) between middle).mono
        fun _ _ _ _ second => first.trans second
  | checked command next induction => exact command.elim

theorem perform?_steps (within : case.Within licence) (before : CaseState) (state : σ) :
    Carries respond (perform? case) before state
      fun exchanges _ after _ => Steps licence case before exchanges after := by
  rw [perform?_eq_playPlain]
  exact play_steps (course_within within) before state

end Runs

end CaseRun

end PlatformAudit
