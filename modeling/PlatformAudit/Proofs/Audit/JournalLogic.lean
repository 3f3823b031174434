import PlatformAudit.Proofs.Audit.DialogueLogic

/-!
# Reasoning about journals

The lines of a dialogue are said in an order that only the answers decide.  A journal takes them
down or lets them go, and nothing depends on which: the value of a dialogue, its last state and what
is asked on the way are the same for every journal.  `Prints` says of a dialogue that its lines, its
value and its last state satisfy a goal, and `Writes` says the same of a dialogue that carries a
state of its own along.
-/

universe u v w

namespace PlatformAudit

namespace Journal

def addAll (journal : Journal) (lines : List String) : Journal :=
  lines.foldl add journal

variable (journal : Journal) (lines : List String)

@[simp] theorem sink_add (line : String) : (journal.add line).sink = journal.sink := by
  unfold add
  split <;> rfl

/-- Only a journal that goes nowhere keeps nothing. -/
theorem text_addAll (kept : journal.sink ≠ .nowhere) :
    (journal.addAll lines).text = journal.text ++ String.join (lines.map (· ++ "\n")) := by
  induction lines generalizing journal with
  | nil => exact String.append_empty.symm
  | cons line rest induction =>
      have added : (journal.add line).text = journal.text ++ line ++ "\n" := by
        unfold add
        split
        · exact absurd ‹_› kept
        · rfl
        · rfl
        · rfl
      change ((journal.add line).addAll rest).text = _
      rw [induction (journal.add line) (by rwa [sink_add]), added, List.map_cons, String.join_cons]
      simp only [String.append_assoc]

end Journal

/-- A responder that keeps a list of what it was asked. -/
def Responder.recording {σ : Type w} (respond : Responder σ) : Responder (σ × List Request) :=
  fun (state, asked) request =>
    let (answer, next) := respond state request
    (answer, (next, asked ++ [request]))

namespace Dialogue

section Prints

variable {α : Type u} {β : Type v} {σ : Type w} {respond : Responder σ}

def lines (respond : Responder σ) : Dialogue α → σ → List String
  | done _, _ => []
  | ask request next, state =>
      let (answer, after) := respond state request
      (next answer).lines respond after
  | say line next, state => line :: next.lines respond state

/-- The lines, the value and the last state of a dialogue satisfy a goal. -/
def Prints (respond : Responder σ) :
    Dialogue α → σ → (List String → α → σ → Prop) → Prop
  | done value, state, goal => goal [] value state
  | ask request next, state, goal =>
      (next (respond state request).1).Prints respond (respond state request).2 goal
  | say line next, state, goal => next.Prints respond state fun lines => goal (line :: lines)

theorem prints_iff (dialogue : Dialogue α) (state : σ) (journal : Journal)
    (goal : List String → α → σ → Prop) :
    dialogue.Prints respond state goal ↔
      goal (dialogue.lines respond state) (dialogue.run respond state journal).value
        (dialogue.run respond state journal).state := by
  induction dialogue generalizing state journal goal with
  | done value => rfl
  | ask request next induction => exact induction _ _ _ _
  | say line next induction => exact induction _ _ _

@[simp] theorem prints_done (value : α) (state : σ) (goal : List String → α → σ → Prop) :
    (done value).Prints respond state goal ↔ goal [] value state :=
  Iff.rfl

@[simp] theorem prints_say (line : String) (next : Dialogue α) (state : σ)
    (goal : List String → α → σ → Prop) :
    (say line next).Prints respond state goal ↔
      next.Prints respond state fun lines => goal (line :: lines) :=
  Iff.rfl

@[simp] theorem prints_bind (dialogue : Dialogue α) (after : α → Dialogue β) (state : σ)
    (goal : List String → β → σ → Prop) :
    (dialogue.bind after).Prints respond state goal ↔
      dialogue.Prints respond state fun first value middle =>
        (after value).Prints respond middle fun second => goal (first ++ second) := by
  induction dialogue generalizing state goal with
  | done value => rfl
  | ask request next induction => exact induction _ _ _
  | say line next induction => exact induction _ _

theorem Prints.mono {dialogue : Dialogue α} {state : σ} {first second : List String → α → σ → Prop}
    (prints : dialogue.Prints respond state first)
    (follows : ∀ lines value final, first lines value final → second lines value final) :
    dialogue.Prints respond state second := by
  rw [prints_iff _ _ { sink := .nowhere }] at prints ⊢
  exact follows _ _ _ prints

theorem journal_run (dialogue : Dialogue α) (state : σ) (journal : Journal) :
    (dialogue.run respond state journal).journal =
      journal.addAll (dialogue.lines respond state) := by
  induction dialogue generalizing state journal with
  | done value => rfl
  | ask request next induction => exact induction _ _ _
  | say line next induction => exact induction _ _

/-- What a dialogue comes to does not depend on its journal. -/
theorem run_any_journal (dialogue : Dialogue α) (respond : Responder σ) (state : σ)
    (first second : Journal) :
    (dialogue.run respond state first).value = (dialogue.run respond state second).value ∧
      (dialogue.run respond state first).state = (dialogue.run respond state second).state := by
  induction dialogue generalizing state first second with
  | done value => exact ⟨rfl, rfl⟩
  | ask request next induction => exact induction _ _ _ _
  | say line next induction => exact induction _ _ _

/-- A responder that keeps a list answers as without it, and the list is that of the transcript. -/
theorem run_recording (dialogue : Dialogue α) (respond : Responder σ) (state : σ)
    (asked : List Request) (journal : Journal) :
    dialogue.run respond.recording (state, asked) journal =
      let plain := dialogue.run respond state journal
      { value := plain.value
        state := (plain.state, asked ++ (dialogue.transcript respond state).map (·.1))
        journal := plain.journal } := by
  induction dialogue generalizing state asked journal with
  | done value => simp [run, transcript]
  | ask request next induction =>
      have later := induction (respond state request).1 (respond state request).2
        (asked ++ [request]) journal
      simpa [run, transcript, Responder.recording] using later
  | say line next induction => exact induction state asked (journal.add line)

end Prints

section Writes

variable {τ α β : Type u} {σ : Type w} {respond : Responder σ}

/-- The lines, the value and both last states of a dialogue that carries a state along satisfy a
goal. -/
def Writes (respond : Responder σ) (run : StateT τ Dialogue α) (carried : τ) (state : σ)
    (goal : List String → α → τ → σ → Prop) : Prop :=
  (run carried).Prints respond state fun lines result => goal lines result.1 result.2

variable {carried : τ} {state : σ}

@[simp] theorem writes_pure (value : α) (goal : List String → α → τ → σ → Prop) :
    Writes respond (pure value) carried state goal ↔ goal [] value carried state :=
  Iff.rfl

@[simp] theorem writes_bind (run : StateT τ Dialogue α) (after : α → StateT τ Dialogue β)
    (goal : List String → β → τ → σ → Prop) :
    Writes respond (run >>= after) carried state goal ↔
      Writes respond run carried state fun first value middle between =>
        Writes respond (after value) middle between fun second => goal (first ++ second) :=
  prints_bind _ _ _ _

@[simp] theorem writes_get (goal : List String → τ → τ → σ → Prop) :
    Writes respond get carried state goal ↔ goal [] carried carried state :=
  Iff.rfl

@[simp] theorem writes_modify (change : τ → τ) (goal : List String → PUnit → τ → σ → Prop) :
    Writes respond (modify change) carried state goal ↔ goal [] ⟨⟩ (change carried) state :=
  Iff.rfl

theorem Writes.mono {run : StateT τ Dialogue α} {first second : List String → α → τ → σ → Prop}
    (writes : Writes respond run carried state first)
    (follows : ∀ lines value final last, first lines value final last →
      second lines value final last) :
    Writes respond run carried state second :=
  Prints.mono writes fun lines result last => follows lines result.1 result.2 last

theorem Writes.and_carries {run : StateT τ Dialogue α}
    {first : List String → α → τ → σ → Prop} {second : List Exchange → α → τ → σ → Prop}
    (writes : Writes respond run carried state first)
    (carries : Carries respond run carried state second) :
    Writes respond run carried state fun lines value final last =>
      first lines value final last ∧ ∃ exchanges, second exchanges value final last := by
  unfold Writes Carries at *
  rw [leads_iff _ _ { sink := .nowhere }] at carries
  rw [prints_iff _ _ { sink := .nowhere }] at writes ⊢
  exact ⟨writes, _, carries⟩

end Writes

end Dialogue

end PlatformAudit
