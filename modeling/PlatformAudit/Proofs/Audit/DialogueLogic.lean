import PlatformAudit.Audit.Dialogue

/-!
# Reasoning about dialogues

A dialogue makes exchanges, ends with a value and leaves the responder in a state.  `Leads` says of
a dialogue that these three satisfy a goal, and `Carries` says the same of a dialogue that carries a
state of its own along.  Both follow the way in which dialogues are put together, so that a property
of a run is found by taking the run apart; `leads_iff` leads back to what is played and written
down.
-/

universe u v w

namespace PlatformAudit

abbrev Exchange := Request × Answer

namespace Dialogue

section Leads

variable {α : Type u} {β : Type v} {σ : Type w} {respond : Responder σ}

/-- The exchanges, the value and the last state of a dialogue satisfy a goal. -/
def Leads (respond : Responder σ) :
    Dialogue α → σ → (List Exchange → α → σ → Prop) → Prop
  | done value, state, goal => goal [] value state
  | ask request next, state, goal =>
      (next (respond state request).1).Leads respond (respond state request).2
        fun exchanges => goal ((request, (respond state request).1) :: exchanges)
  | say _ next, state, goal => next.Leads respond state goal

/-- What a dialogue leads to is what its transcript and its outcome satisfy. -/
theorem leads_iff (dialogue : Dialogue α) (state : σ) (journal : Journal)
    (goal : List Exchange → α → σ → Prop) :
    dialogue.Leads respond state goal ↔
      goal (dialogue.transcript respond state) (dialogue.run respond state journal).value
        (dialogue.run respond state journal).state := by
  induction dialogue generalizing state journal goal with
  | done value => rfl
  | ask request next induction => exact induction _ _ _ _
  | say line next induction => exact induction _ _ _

@[simp] theorem leads_done (value : α) (state : σ) (goal : List Exchange → α → σ → Prop) :
    (done value).Leads respond state goal ↔ goal [] value state :=
  Iff.rfl

@[simp] theorem leads_say (line : String) (next : Dialogue α) (state : σ)
    (goal : List Exchange → α → σ → Prop) :
    (say line next).Leads respond state goal ↔ next.Leads respond state goal :=
  Iff.rfl

@[simp] theorem leads_bind (dialogue : Dialogue α) (after : α → Dialogue β) (state : σ)
    (goal : List Exchange → β → σ → Prop) :
    (dialogue.bind after).Leads respond state goal ↔
      dialogue.Leads respond state fun first value middle =>
        (after value).Leads respond middle fun second => goal (first ++ second) := by
  induction dialogue generalizing state goal with
  | done value => rfl
  | ask request next induction => exact induction _ _ _
  | say line next induction => exact induction _ _

theorem transcript_bind_done (dialogue : Dialogue α) (change : α → β) (state : σ) :
    (dialogue.bind fun value => done (change value)).transcript respond state =
      dialogue.transcript respond state := by
  induction dialogue generalizing state with
  | done value => rfl
  | ask request next induction => exact congrArg (List.cons _) (induction _ _)
  | say line next induction => exact induction _

theorem run_bind_done (dialogue : Dialogue α) (change : α → β) (state : σ) (journal : Journal) :
    (dialogue.bind fun value => done (change value)).run respond state journal =
      let outcome := dialogue.run respond state journal
      { value := change outcome.value, state := outcome.state, journal := outcome.journal } := by
  induction dialogue generalizing state journal with
  | done value => rfl
  | ask request next induction => exact induction _ _ _
  | say line next induction => exact induction _ _

theorem Leads.mono {dialogue : Dialogue α} {state : σ}
    {first second : List Exchange → α → σ → Prop}
    (leads : dialogue.Leads respond state first)
    (follows : ∀ exchanges value final, first exchanges value final →
      second exchanges value final) :
    dialogue.Leads respond state second := by
  rw [leads_iff _ _ { sink := .nowhere }] at leads ⊢
  exact follows _ _ _ leads

theorem leads_transcript (dialogue : Dialogue α) (state : σ) :
    dialogue.Leads respond state
      fun exchanges _ _ => exchanges = dialogue.transcript respond state :=
  (leads_iff _ _ { sink := .nowhere } _).mpr rfl

/-- What every request keeps holds whenever the responder answers, and in the end. -/
theorem leads_kept {kept : σ → Prop}
    (keeps : ∀ state request, kept state → kept (respond state request).2)
    (dialogue : Dialogue α) {state : σ} (start : kept state) :
    dialogue.Leads respond state
      fun exchanges _ last => kept last ∧ ∀ exchange ∈ exchanges, ∃ before, kept before ∧
        (respond before exchange.1).1 = exchange.2 := by
  induction dialogue generalizing state with
  | done value => simpa using start
  | ask request next induction =>
      apply (induction _ (keeps state request start)).mono
      rintro exchanges _ last ⟨holds, answered⟩
      exact ⟨holds, List.forall_mem_cons.mpr ⟨⟨state, start, rfl⟩, answered⟩⟩
  | say line next induction => exact induction start

/-- The responder has given every answer of a transcript in a state that every request keeps. -/
theorem exists_of_mem_transcript {kept : σ → Prop}
    (keeps : ∀ state request, kept state → kept (respond state request).2)
    {dialogue : Dialogue α} {state : σ} (start : kept state) {exchange : Exchange}
    (member : exchange ∈ dialogue.transcript respond state) :
    ∃ before, kept before ∧ (respond before exchange.1).1 = exchange.2 :=
  ((leads_iff _ _ { sink := .nowhere } _).mp (leads_kept keeps dialogue start)).2 exchange member

/-- Every answer in an exchange is one that the responder has given. -/
theorem leads_answered (dialogue : Dialogue α) (state : σ) :
    dialogue.Leads respond state
      fun exchanges _ _ => ∀ exchange ∈ exchanges, ∃ before,
        (respond before exchange.1).1 = exchange.2 := by
  have kept : ∀ (before : σ) (request : Request), True → True := fun _ _ holds => holds
  refine Leads.mono (leads_kept kept dialogue trivial) ?_
  rintro exchanges _ _ ⟨-, answered⟩ exchange member
  obtain ⟨before, -, answer⟩ := answered exchange member
  exact ⟨before, answer⟩

theorem leads_of_forall {dialogue : Dialogue α} {state : σ}
    {goal : List Exchange → α → σ → Prop}
    (holds : ∀ exchanges value final, goal exchanges value final) :
    dialogue.Leads respond state goal :=
  (leads_iff _ _ { sink := .nowhere } _).mpr (holds _ _ _)

end Leads

section Carries

variable {τ α β : Type u} {σ : Type w} {respond : Responder σ}

/-- The exchanges, the value and both last states of a dialogue that carries a state along satisfy a
goal. -/
def Carries (respond : Responder σ) (run : StateT τ Dialogue α) (carried : τ) (state : σ)
    (goal : List Exchange → α → τ → σ → Prop) : Prop :=
  (run carried).Leads respond state fun exchanges result => goal exchanges result.1 result.2

variable {carried : τ} {state : σ}

@[simp] theorem carries_pure (value : α) (goal : List Exchange → α → τ → σ → Prop) :
    Carries respond (pure value) carried state goal ↔ goal [] value carried state :=
  Iff.rfl

@[simp] theorem carries_bind (run : StateT τ Dialogue α) (after : α → StateT τ Dialogue β)
    (goal : List Exchange → β → τ → σ → Prop) :
    Carries respond (run >>= after) carried state goal ↔
      Carries respond run carried state fun first value middle between =>
        Carries respond (after value) middle between fun second => goal (first ++ second) :=
  leads_bind _ _ _ _

@[simp] theorem carries_map (change : α → β) (run : StateT τ Dialogue α)
    (goal : List Exchange → β → τ → σ → Prop) :
    Carries respond (change <$> run) carried state goal ↔
      Carries respond run carried state fun exchanges value => goal exchanges (change value) := by
  rw [map_eq_pure_bind, carries_bind]
  simp only [carries_pure, List.append_nil]

@[simp] theorem carries_get (goal : List Exchange → τ → τ → σ → Prop) :
    Carries respond get carried state goal ↔ goal [] carried carried state :=
  Iff.rfl

@[simp] theorem carries_set (value : τ) (goal : List Exchange → PUnit → τ → σ → Prop) :
    Carries respond (set value) carried state goal ↔ goal [] ⟨⟩ value state :=
  Iff.rfl

@[simp] theorem carries_modify (change : τ → τ)
    (goal : List Exchange → PUnit → τ → σ → Prop) :
    Carries respond (modify change) carried state goal ↔ goal [] ⟨⟩ (change carried) state :=
  Iff.rfl

theorem Carries.mono {run : StateT τ Dialogue α}
    {first second : List Exchange → α → τ → σ → Prop}
    (carries : Carries respond run carried state first)
    (follows : ∀ exchanges value final last, first exchanges value final last →
      second exchanges value final last) :
    Carries respond run carried state second :=
  Leads.mono carries fun exchanges result last => follows exchanges result.1 result.2 last

theorem carries_of_forall {run : StateT τ Dialogue α} {goal : List Exchange → α → τ → σ → Prop}
    (holds : ∀ exchanges value final last, goal exchanges value final last) :
    Carries respond run carried state goal :=
  leads_of_forall fun exchanges result last => holds exchanges result.1 result.2 last

theorem carries_transcript (run : StateT τ Dialogue α) (carried : τ) (state : σ) :
    Carries respond run carried state
      fun exchanges _ _ _ => exchanges = (run carried).transcript respond state :=
  leads_transcript (run carried) state

theorem carries_answered (run : StateT τ Dialogue α) (carried : τ) (state : σ) :
    Carries respond run carried state
      fun exchanges _ _ _ => ∀ exchange ∈ exchanges, ∃ before,
        (respond before exchange.1).1 = exchange.2 :=
  leads_answered (run carried) state

theorem Carries.and {run : StateT τ Dialogue α}
    {first second : List Exchange → α → τ → σ → Prop}
    (carriesFirst : Carries respond run carried state first)
    (carriesSecond : Carries respond run carried state second) :
    Carries respond run carried state fun exchanges value final last =>
      first exchanges value final last ∧ second exchanges value final last := by
  unfold Carries at *
  rw [leads_iff _ _ { sink := .nowhere }] at *
  exact ⟨carriesFirst, carriesSecond⟩

end Carries

end Dialogue

end PlatformAudit
