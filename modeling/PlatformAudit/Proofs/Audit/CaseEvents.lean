import PlatformAudit.Proofs.Audit.CaseLogic

/-!
# The events of a case

What happens in a case can be written down as a list of events: requests with their answers, what
was done besides, and what was expected from then on.  The events of a course are found by following
the course and asking the responder, and replaying them leads from the state before to the state
after.  Running a case and replaying its events is the same.
-/

universe w

namespace PlatformAudit

open Dialogue

/-- What happens in a case. -/
inductive Event where
  | asked (request : Request) (answer : Answer)
  | did (effect : Effect)
  | expected (descriptors : List Descriptor)

namespace Event

def exchange? : Event → Option Exchange
  | asked request answer => some (request, answer)
  | did _ | expected _ => none

def checks : Event → List Check
  | did effect => effect.checks
  | asked _ _ | expected _ => []

/-- The requests among some events, with their answers. -/
def exchangesOf (events : List Event) : List Exchange :=
  events.filterMap exchange?

/-- The checks among some events. -/
def checksOf (events : List Event) : List Check :=
  events.flatMap checks

def notes (checks : List Check) : List Event :=
  checks.map fun check => did (.check check)

section

variable (first second : List Event) (found : List Check)

@[simp] theorem exchangesOf_nil : exchangesOf [] = [] := rfl

@[simp] theorem exchangesOf_append :
    exchangesOf (first ++ second) = exchangesOf first ++ exchangesOf second :=
  List.filterMap_append

@[simp] theorem exchangesOf_asked (request : Request) (answer : Answer) :
    exchangesOf (asked request answer :: second) = (request, answer) :: exchangesOf second := rfl

@[simp] theorem exchangesOf_did (effect : Effect) :
    exchangesOf (did effect :: second) = exchangesOf second := rfl

@[simp] theorem exchangesOf_expected (descriptors : List Descriptor) :
    exchangesOf (expected descriptors :: second) = exchangesOf second := rfl

@[simp] theorem exchangesOf_notes : exchangesOf (notes found) = [] := by
  induction found with
  | nil => rfl
  | cons check rest induction => exact induction

@[simp] theorem checksOf_nil : checksOf [] = [] := rfl

@[simp] theorem checksOf_append :
    checksOf (first ++ second) = checksOf first ++ checksOf second :=
  List.flatMap_append

@[simp] theorem checksOf_asked (request : Request) (answer : Answer) :
    checksOf (asked request answer :: second) = checksOf second := rfl

@[simp] theorem checksOf_did (effect : Effect) :
    checksOf (did effect :: second) = effect.checks ++ checksOf second := rfl

@[simp] theorem checksOf_expected (descriptors : List Descriptor) :
    checksOf (expected descriptors :: second) = checksOf second := rfl

@[simp] theorem checksOf_notes : checksOf (notes found) = found := by
  induction found with
  | nil => rfl
  | cons check rest induction => exact congrArg (check :: ·) induction

end

end Event

namespace CaseState

/-- The state after an event.  An answer says nothing of its own, apart from its status. -/
def after (state : CaseState) : Event → CaseState
  | .asked (.command _ _) (.ok response) => state.answered response
  | .asked (.command _ _) (.error _) => { state with token := Header.nextToken state.token }
  | .asked (.await _) _ => state
  | .did effect => state.affected [effect]
  | .expected descriptors => { state with expected := descriptors }

def replay (state : CaseState) (events : List Event) : CaseState :=
  events.foldl after state

variable (state : CaseState)

@[simp] theorem replay_nil : state.replay [] = state := rfl

@[simp] theorem replay_cons (event : Event) (rest : List Event) :
    state.replay (event :: rest) = (state.after event).replay rest := rfl

@[simp] theorem replay_append (first second : List Event) :
    state.replay (first ++ second) = (state.replay first).replay second :=
  List.foldl_append

@[simp] theorem replay_notes (checks : List Check) :
    state.replay (Event.notes checks) = state.noted checks := by
  induction checks generalizing state with
  | nil => simp [Event.notes, noted]
  | cons check rest induction =>
      have later := induction (state.after (.did (.check check)))
      simpa [Event.notes, noted, after, affected, Effect.checks, Effect.apply] using later

theorem checks_after (event : Event) :
    (state.after event).checks = state.checks ++ event.checks := by
  rcases event with ⟨_ | _, _ | _⟩ | effect | descriptors <;>
    simp [after, Event.checks, affected]

theorem checks_replay (events : List Event) :
    (state.replay events).checks = state.checks ++ Event.checksOf events := by
  induction events generalizing state with
  | nil => simp
  | cons event rest induction =>
      rw [replay_cons, induction, checks_after, List.append_assoc]
      rfl

end CaseState

def Request.callName : Request → String
  | .command _ _ => "send"
  | .await late => late.requestName

/-- The check that tells of a failed request. -/
def Request.failure (request : Request) (cause : LinkError) : Check :=
  CaseRun.requestFailed request.callName cause

/-- The events of a request.  A failure is noted at once. -/
def Request.events (request : Request) (answer : Answer) : List Event :=
  .asked request answer ::
    match answer with
    | .ok _ => []
    | .error cause => Event.notes [request.failure cause]

@[simp] theorem Request.exchangesOf_events (request : Request) (answer : Answer) :
    Event.exchangesOf (request.events answer) = [(request, answer)] := by
  cases answer <;> rfl

/-- What a responder remembers after some exchanges. -/
def Responder.after {σ : Type w} (respond : Responder σ) (state : σ)
    (exchanges : List Exchange) : σ :=
  exchanges.foldl (fun before exchange => (respond before exchange.1).2) state

theorem Responder.after_append {σ : Type w} (respond : Responder σ) (state : σ)
    (first second : List Exchange) :
    Responder.after respond state (first ++ second) =
      Responder.after respond (Responder.after respond state first) second :=
  List.foldl_append

theorem Responder.after_keeps {σ : Type w} {respond : Responder σ} {kept : σ → Prop}
    {asked : Request → Prop}
    (keeps : ∀ state request, kept state → asked request → kept (respond state request).2)
    {state : σ} (start : kept state) {exchanges : List Exchange}
    (all : ∀ exchange ∈ exchanges, asked exchange.1) :
    kept (Responder.after respond state exchanges) := by
  induction exchanges generalizing state with
  | nil => exact start
  | cons exchange rest induction =>
      have next := keeps state exchange.1 start (all exchange List.mem_cons_self)
      exact induction next fun later member => all later (List.mem_cons_of_mem _ member)

namespace Dialogue

/-- What a responder remembers in the end follows from what it was asked. -/
theorem leads_after {σ : Type w} {respond : Responder σ} {α : Type} (dialogue : Dialogue α)
    (state : σ) :
    dialogue.Leads respond state
      fun exchanges _ last => last = Responder.after respond state exchanges := by
  induction dialogue generalizing state with
  | done value => rfl
  | ask request next induction => exact induction _ _
  | say line next induction => exact induction state

theorem carries_after {σ : Type w} {respond : Responder σ} {τ α : Type}
    (run : StateT τ Dialogue α) (carried : τ) (state : σ) :
    Carries respond run carried state
      fun exchanges _ _ last => last = Responder.after respond state exchanges :=
  leads_after (run carried) state

end Dialogue

/-- The events of a course that is played from a state. -/
def Course.events {α : Type} {σ : Type w} (respond : Responder σ) (case : Case) :
    PlainCourse α → CaseState → σ → List Event
  | .done _, _, _ => []
  | .perform effect next, before, state =>
      .did effect :: next.events respond case (before.after (.did effect)) state
  | .expect descriptors next, before, state =>
      .expected descriptors :: next.events respond case (before.after (.expected descriptors)) state
  | .view next, before, state =>
      (next { context := before.context, expected := before.expected }).events respond case before
        state
  | .send message parameters next, before, state =>
      let request : Request := .command (CaseRun.nextHeader case message before.token) parameters
      let (answer, later) := respond state request
      request.events answer ++
        (next answer.toOption).events respond case (before.replay (request.events answer)) later
  | .await late next, before, state =>
      let request : Request := .await late
      let (answer, later) := respond state request
      request.events answer ++
        (next answer.toOption).events respond case (before.replay (request.events answer)) later
  | .checked command _, _, _ => command.elim

def Case.events {σ : Type w} (respond : Responder σ) (case : Case) (before : CaseState)
    (state : σ) : List Event :=
  case.course.events respond case before state

namespace CaseRun

open CaseState

variable {σ : Type w} {respond : Responder σ} {case : Case}

private theorem send_events (message : UInt8) (parameters : List UInt32) (before : CaseState)
    (state : σ) :
    let request : Request := .command (nextHeader case message before.token) parameters
    let events := request.events (respond state request).1
    Carries respond (send case message parameters) before state
      fun exchanges value after last =>
        exchanges = Event.exchangesOf events ∧ value = (respond state request).1.toOption ∧
          after = before.replay events ∧ last = (respond state request).2 := by
  intro request events
  rcases answer : respond state request with ⟨cause | response, next⟩
  · rw [carries_send_unanswered answer]
    simp [events, answer, Except.toOption, Request.events, Request.failure, Request.callName,
      request, CaseState.after, unanswered, noted]
  · rw [carries_send_answered answer]
    simp [events, answer, Except.toOption, Request.events, request, CaseState.after]

private theorem await_events (late : Late) (before : CaseState) (state : σ) :
    let request : Request := .await late
    let events := request.events (respond state request).1
    Carries respond (await late) before state
      fun exchanges value after last =>
        exchanges = Event.exchangesOf events ∧ value = (respond state request).1.toOption ∧
          after = before.replay events ∧ last = (respond state request).2 := by
  intro request events
  rcases answer : respond state request with ⟨cause | response, next⟩
  · rw [carries_await_unanswered answer]
    simp [events, answer, Except.toOption, Request.events, Request.failure, Request.callName,
      request, CaseState.after]
  · rw [carries_await_answered answer]
    simp [events, answer, Except.toOption, Request.events, request, CaseState.after]

/-- Playing a course does what its events tell. -/
theorem play_events {α : Type} (course : PlainCourse α) (before : CaseState) (state : σ) :
    Carries respond (playPlain case course) before state
      fun exchanges _ after _ =>
        exchanges = Event.exchangesOf (course.events respond case before state) ∧
          after = before.replay (course.events respond case before state) := by
  induction course generalizing before state with
  | done value => exact ⟨rfl, rfl⟩
  | perform effect next induction =>
      simp only [play, carries_bind, carries_perform, Course.events]
      exact induction (before.affected [effect]) state
  | expect descriptors next induction =>
      simp only [play, carries_bind, carries_modify, Course.events]
      exact induction { before with expected := descriptors } state
  | view next induction =>
      simp only [play, carries_bind, carries_get, Course.events]
      exact induction _ before state
  | send message parameters next induction =>
      simp only [play, carries_bind]
      apply (send_events message parameters before state).mono
      rintro _ _ _ _ ⟨rfl, rfl, rfl, rfl⟩
      apply (induction _ _ _).mono
      rintro _ _ _ _ ⟨rfl, rfl⟩
      simp [Course.events]
  | await late next induction =>
      simp only [play, carries_bind]
      apply (await_events late before state).mono
      rintro _ _ _ _ ⟨rfl, rfl, rfl, rfl⟩
      apply (induction _ _ _).mono
      rintro _ _ _ _ ⟨rfl, rfl⟩
      simp [Course.events]
  | checked command next induction => exact command.elim

theorem perform?_events (case : Case) (before : CaseState) (state : σ) :
    Carries respond (perform? case) before state
      fun exchanges _ after _ =>
        exchanges = Event.exchangesOf (case.events respond before state) ∧
          after = before.replay (case.events respond before state) := by
  rw [perform?_eq_playPlain]
  exact play_events case.course before state

end CaseRun

end PlatformAudit
