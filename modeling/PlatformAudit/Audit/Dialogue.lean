import PlatformAudit.Audit.Journal
import PlatformAudit.Link.Link

/-!
# Dialogues

An audit is a dialogue: it asks the platform and goes on with the answer, and every now and then it
says a line about its progress.  A dialogue is a tree and knows nothing of the link or of where the
lines go.  `Dialogue.run` plays it against a responder and a journal, and `Dialogue.transcript`
lists what was asked and answered; both take a dialogue that goes on apart into its parts.
-/

universe u v w

namespace PlatformAudit

/-- Whoever answers requests, with a state that remembers what happened before. -/
abbrev Responder (σ : Type w) := σ → Request → Answer × σ

/-- A tree of requests and lines that ends with a value. -/
inductive Dialogue (α : Type u) where
  | done (value : α)
  | ask (request : Request) (next : Answer → Dialogue α)
  | say (line : String) (next : Dialogue α)

namespace Dialogue

variable {α : Type u} {β : Type v} {σ : Type w}

/-- Goes on with a second dialogue where the first one ends. -/
def bind : Dialogue α → (α → Dialogue β) → Dialogue β
  | done value, after => after value
  | ask request next, after => ask request fun answer => (next answer).bind after
  | say line next, after => say line (next.bind after)

instance : Monad Dialogue where
  pure := done
  bind := bind

/-- What is left when a dialogue has been played. -/
structure Outcome (σ : Type w) (α : Type u) where
  value : α
  state : σ
  journal : Journal

def run (respond : Responder σ) : Dialogue α → σ → Journal → Outcome σ α
  | done value, state, journal => { value, state, journal }
  | ask request next, state, journal =>
      let (answer, after) := respond state request
      (next answer).run respond after journal
  | say line next, state, journal => next.run respond state (journal.add line)

/-- The requests of a dialogue with their answers, in order. -/
def transcript (respond : Responder σ) : Dialogue α → σ → List (Request × Answer)
  | done _, _ => []
  | ask request next, state =>
      let (answer, after) := respond state request
      (request, answer) :: (next answer).transcript respond after
  | say _ next, state => next.transcript respond state

private theorem bind_done (dialogue : Dialogue α) : dialogue.bind done = dialogue := by
  induction dialogue with
  | done value => rfl
  | ask request next induction => exact congrArg (ask request) (funext induction)
  | say line next induction => exact congrArg (say line) induction

private theorem bind_bind {γ : Type w} (dialogue : Dialogue α) (second : α → Dialogue β)
    (third : β → Dialogue γ) :
    (dialogue.bind second).bind third = dialogue.bind fun value => (second value).bind third := by
  induction dialogue with
  | done value => rfl
  | ask request next induction => exact congrArg (ask request) (funext induction)
  | say line next induction => exact congrArg (say line) induction

instance : LawfulMonad Dialogue.{u} :=
  LawfulMonad.mk' Dialogue bind_done (fun _ _ => rfl) bind_bind

end Dialogue

end PlatformAudit
