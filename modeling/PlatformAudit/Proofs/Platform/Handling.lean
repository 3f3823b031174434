import PlatformAudit.Platform.Handler

/-!
# Commands that are carried out or refused

A handler changes its state and posts messages step by step, and nothing takes a step back.  So it
is a property of a handler, and not of how its replies are put together, that a command is either
carried out as a whole or refused with nothing done.
-/

namespace PlatformAudit

namespace Work

variable {α β γ : Type} (work : Work α)

@[simp] theorem handle_pure (value : β) :
    work.handle (pure value : Handling α β) = (.ok value, work) :=
  rfl

@[simp] theorem handle_throw (status : Status) :
    work.handle (throw status : Handling α β) = (.error status, work) :=
  rfl

/-- What was done before a refusal stays done. -/
theorem handle_bind (first : Handling α β) (next : β → Handling α γ) :
    work.handle (first >>= next) =
      match work.handle first with
      | (.ok value, after) => after.handle (next value)
      | (.error status, after) => (.error status, after) := by
  unfold handle
  simp only [ExceptT.run_bind, StateT.run_bind]
  change (match (first.run.run work).1 with | _ => _) = _
  rcases first.run.run work with ⟨_ | _, _⟩ <;> rfl

@[simp] theorem handle_lift_ok (value : β) (next : β → Handling α γ) :
    work.handle (liftM (Except.ok value : Except Status β) >>= next) = work.handle (next value) :=
  rfl

@[simp] theorem handle_lift_error (status : Status) (next : β → Handling α γ) :
    work.handle (liftM (Except.error status : Except Status β) >>= next) =
      (.error status, work) :=
  rfl

@[simp] theorem handle_state (next : α → Handling α γ) :
    work.handle (Handling.state >>= next) = work.handle (next work.state) :=
  rfl

@[simp] theorem handle_change (state : α) (next : Unit → Handling α γ) :
    work.handle (Handling.change state >>= next) =
      ({ work with state } : Work α).handle (next ()) :=
  rfl

@[simp] theorem handle_post (post : Post) (next : Unit → Handling α γ) :
    work.handle (Handling.post post >>= next) =
      ({ work with posts := work.posts ++ [post] } : Work α).handle (next ()) :=
  rfl

end Work

namespace Work

variable {α β γ : Type} {work : Work α} {refused : Status → Prop} {done : β → Work α → Prop}

/-- Steps end with a result, or with a refusal that has left everything as it was. -/
def Ends (work : Work α) (handling : Handling α β) (refused : Status → Prop)
    (done : β → Work α → Prop) : Prop :=
  match work.handle handling with
  | (.ok value, after) => done value after
  | (.error status, after) => refused status ∧ after = work

namespace Ends

theorem pure {value : β} (holds : done value work) :
    work.Ends (Pure.pure value : Handling α β) refused done :=
  holds

theorem throw {status : Status} (holds : refused status) :
    work.Ends (MonadExcept.throw status : Handling α β) refused done :=
  ⟨holds, rfl⟩

theorem state {next : α → Handling α β} (ends : work.Ends (next work.state) refused done) :
    work.Ends (Handling.state >>= next) refused done :=
  ends

theorem lift {result : Except Status γ} {next : γ → Handling α β}
    (refuses : ∀ status, result = .error status → refused status)
    (ends : ∀ value, result = .ok value → work.Ends (next value) refused done) :
    work.Ends (liftM result >>= next) refused done := by
  cases result with
  | ok value => exact ends value rfl
  | error status => exact ⟨refuses status rfl, rfl⟩

theorem ite {condition : Prop} [Decidable condition] {first second : Handling α β}
    (ends : condition → work.Ends first refused done)
    (otherwise : ¬condition → work.Ends second refused done) :
    work.Ends (if condition then first else second) refused done := by
  by_cases here : condition
  · rw [if_pos here]
    exact ends here
  · rw [if_neg here]
    exact otherwise here

end Ends

end Work

/-- What comes of a command that is carried out. -/
structure Outcome (α : Type) where
  returns : List UInt32 := []
  posts : List Post := []
  next : α

namespace Handling

variable {α : Type} {handling : Handling α (List UInt32)} {state : α} {outcome : Outcome α}
  {status : Status}

/-- A command is carried out with the given outcome. -/
def CarriesOut (handling : Handling α (List UInt32)) (state : α) (outcome : Outcome α) : Prop :=
  Work.handle { state } handling =
    (.ok outcome.returns, { state := outcome.next, posts := outcome.posts })

/-- A command is refused, and nothing has changed and nothing is posted. -/
def Refuses (handling : Handling α (List UInt32)) (state : α) (status : Status) : Prop :=
  Work.handle { state } handling = (.error status, { state })

theorem CarriesOut.not_refuses (carriesOut : handling.CarriesOut state outcome) :
    ¬handling.Refuses state status := by
  intro refuses
  cases carriesOut.symm.trans refuses

theorem CarriesOut.unique {other : Outcome α} (carriesOut : handling.CarriesOut state outcome)
    (carriesOutOther : handling.CarriesOut state other) : outcome = other := by
  have same := carriesOut.symm.trans carriesOutOther
  cases outcome
  cases other
  simp_all

theorem CarriesOut.reply (carriesOut : handling.CarriesOut state outcome) (header : Header) :
    Reply.ofHandling state header handling =
      { response := { header, status := Status.success.code, returns := outcome.returns }
        posts := outcome.posts
        next := outcome.next } := by
  have handled : Work.handle { state } handling = _ := carriesOut
  rw [Reply.ofHandling, handled]
  rfl

theorem Refuses.reply (refuses : handling.Refuses state status) (header : Header) :
    Reply.ofHandling state header handling =
      { response := .ofStatus header status, next := state } := by
  have handled : Work.handle { state } handling = _ := refuses
  rw [Reply.ofHandling, handled]
  rfl

theorem carriesOut_or_refuses {refused : Status → Prop} {done : List UInt32 → Work α → Prop}
    (ends : Work.Ends { state } handling refused done) :
    (∃ outcome, handling.CarriesOut state outcome ∧
        done outcome.returns { state := outcome.next, posts := outcome.posts }) ∨
      ∃ status, handling.Refuses state status ∧ refused status := by
  unfold Work.Ends at ends
  split at ends
  case h_1 returns after handled =>
    exact .inl ⟨{ returns, posts := after.posts, next := after.state }, handled, ends⟩
  case h_2 status after handled =>
    obtain ⟨refused, rfl⟩ := ends
    exact .inr ⟨status, handled, refused⟩

end Handling

end PlatformAudit
