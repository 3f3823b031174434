import PlatformAudit.Audit.CaseRun
import PlatformAudit.Plan.Gate
import PlatformAudit.Proofs.Audit.DialogueLogic

/-!
# Reasoning about the run of a case

What each step of a case carries.  The state that a step leaves is written down as a function of the
state before and of the answers, so that a run of many steps is followed by putting these functions
together.
-/

universe w

namespace PlatformAudit

open Dialogue

namespace Effect

def checks : Effect → List Check
  | .check found => [found]
  | .decide _ _ | .discover _ => []

def apply (context : Context) : Effect → Context
  | .check _ => context
  | .decide suite mustRun => context.decideSuite suite mustRun
  | .discover edit => context.discover edit

end Effect

namespace CaseState

def noted (state : CaseState) (checks : List Check) : CaseState :=
  { state with checks := state.checks ++ checks }

def affected (state : CaseState) (effects : List Effect) : CaseState :=
  { state with
    checks := state.checks ++ effects.flatMap Effect.checks
    context := effects.foldl Effect.apply state.context }

def answered (state : CaseState) (response : Response) : CaseState :=
  { state with token := Header.nextToken state.token, lastStatus := some response.status }

def unanswered (state : CaseState) (cause : LinkError) : CaseState :=
  { state with
    token := Header.nextToken state.token
    checks := state.checks ++ [CaseRun.requestFailed "send" cause] }

section

variable (state : CaseState) (checks : List Check) (effects : List Effect) (response : Response)
  (cause : LinkError)

@[simp] theorem noted_token : (state.noted checks).token = state.token := rfl
@[simp] theorem noted_context : (state.noted checks).context = state.context := rfl
@[simp] theorem noted_expected : (state.noted checks).expected = state.expected := rfl
@[simp] theorem noted_lastStatus : (state.noted checks).lastStatus = state.lastStatus := rfl
@[simp] theorem noted_checks : (state.noted checks).checks = state.checks ++ checks := rfl

@[simp] theorem affected_token : (state.affected effects).token = state.token := rfl
@[simp] theorem affected_expected : (state.affected effects).expected = state.expected := rfl
@[simp] theorem affected_lastStatus : (state.affected effects).lastStatus = state.lastStatus := rfl

@[simp] theorem affected_checks :
    (state.affected effects).checks = state.checks ++ effects.flatMap Effect.checks := rfl

@[simp] theorem affected_context :
    (state.affected effects).context = effects.foldl Effect.apply state.context := rfl

@[simp] theorem answered_token :
    (state.answered response).token = Header.nextToken state.token :=
  rfl
@[simp] theorem answered_context : (state.answered response).context = state.context := rfl
@[simp] theorem answered_expected : (state.answered response).expected = state.expected := rfl
@[simp] theorem answered_checks : (state.answered response).checks = state.checks := rfl

@[simp] theorem answered_lastStatus :
    (state.answered response).lastStatus = some response.status := rfl

@[simp] theorem unanswered_token :
    (state.unanswered cause).token = Header.nextToken state.token :=
  rfl
@[simp] theorem unanswered_context : (state.unanswered cause).context = state.context := rfl

@[simp] theorem affected_nil : state.affected [] = state := by
  simp [affected]

theorem affected_cons (effect : Effect) :
    (state.affected [effect]).affected effects = state.affected (effect :: effects) := by
  simp [affected]

/-- Noting checks is performing nothing but them. -/
theorem affected_checks_eq : state.affected (checks.map .check) = state.noted checks := by
  induction checks generalizing state with
  | nil => simp [noted]
  | cons check rest induction =>
      rw [List.map_cons, ← affected_cons, induction]
      simp [affected, noted, Effect.checks, Effect.apply]

end

end CaseState

theorem Course.checkReturns_eq {κ : Type} (returns : List UInt32) :
    (Course.checkReturns returns : Course κ Unit) =
      .view fun seen =>
        .expect [] <|
          (noteReturns seen.expected returns).bind fun _ => setExpected seen.expected :=
  rfl

namespace CaseRun

open CaseState

variable {σ : Type w} {respond : Responder σ} {before : CaseState} {state next last : σ}

@[simp] theorem carries_note (check : Check)
    (goal : List Exchange → Unit → CaseState → σ → Prop) :
    Carries respond (note check) before state goal ↔ goal [] () (before.noted [check]) state :=
  Iff.rfl

@[simp] theorem carries_perform (effect : Effect)
    (goal : List Exchange → Unit → CaseState → σ → Prop) :
    Carries respond (perform effect) before state goal ↔
      goal [] () (before.affected [effect]) state := by
  cases effect with
  | check check => simp [perform, affected, noted, Effect.checks, Effect.apply]
  | decide suite mustRun => simp [perform, affected, Effect.checks, Effect.apply]
  | discover edit => simp [perform, affected, Effect.checks, Effect.apply]

theorem carries_ask (request : Request)
    (goal : List Exchange → Answer → CaseState → σ → Prop) :
    Carries respond (ask request) before state goal ↔
      goal [(request, (respond state request).1)] (respond state request).1 before
        (respond state request).2 :=
  Iff.rfl

@[simp] theorem carries_takeToken (goal : List Exchange → UInt16 → CaseState → σ → Prop) :
    Carries respond takeToken before state goal ↔
      goal [] before.token { before with token := Header.nextToken before.token } state :=
  Iff.rfl

section Requests

variable {case : Case} {message : UInt8} {parameters : List UInt32} {response : Response}
  {cause : LinkError}

theorem carries_send_answered
    (answer : respond state (.command (nextHeader case message before.token) parameters) =
      (.ok response, next))
    (goal : List Exchange → Option Response → CaseState → σ → Prop) :
    Carries respond (send case message parameters) before state goal ↔
      goal [(.command (nextHeader case message before.token) parameters, .ok response)]
        (some response) (before.answered response) next := by
  simp [send, carries_ask, answer, answered]

theorem carries_send_unanswered
    (answer : respond state (.command (nextHeader case message before.token) parameters) =
      (.error cause, next))
    (goal : List Exchange → Option Response → CaseState → σ → Prop) :
    Carries respond (send case message parameters) before state goal ↔
      goal [(.command (nextHeader case message before.token) parameters, .error cause)]
        none (before.unanswered cause) next := by
  simp [send, carries_ask, answer, unanswered, noted]

theorem carries_await_answered {late : Late}
    (answer : respond state (.await late) = (.ok response, next))
    (goal : List Exchange → Option Response → CaseState → σ → Prop) :
    Carries respond (await late) before state goal ↔
      goal [(.await late, .ok response)] (some response) before next := by
  simp [await, carries_ask, answer]

theorem carries_await_unanswered {late : Late}
    (answer : respond state (.await late) = (.error cause, next))
    (goal : List Exchange → Option Response → CaseState → σ → Prop) :
    Carries respond (await late) before state goal ↔
      goal [(.await late, .error cause)] none (before.noted [requestFailed late.requestName cause])
        next := by
  simp [await, carries_ask, answer]

end Requests

/-! ### Courses -/

section Courses

variable {κ α β : Type} {case : Case} {checked : κ → CaseRun (Option Response)}

/-- A course that goes on is played as its parts are, one after the other. -/
theorem play_bind (case : Case) (checked : κ → CaseRun (Option Response)) (course : Course κ α)
    (after : α → Course κ β) :
    play case checked (course.bind after) =
      play case checked course >>= fun value => play case checked (after value) := by
  induction course with
  | done value => simp
  | perform effect next induction => simp [induction]
  | expect expected next induction => simp [induction]
  | view next induction => simp [induction]
  | send message parameters next induction => simp [induction]
  | await late next induction => simp [induction]
  | checked command next induction => simp [induction]

@[simp] theorem carries_play_context (goal : List Exchange → Context → CaseState → σ → Prop) :
    Carries respond (play case checked Course.context) before state goal ↔
      goal [] before.context before state :=
  Iff.rfl

@[simp] theorem carries_play_done (value : α) (goal : List Exchange → α → CaseState → σ → Prop) :
    Carries respond (play case checked (.done value)) before state goal ↔
      goal [] value before state :=
  Iff.rfl

@[simp] theorem carries_play_performs (effects : List Effect)
    (goal : List Exchange → Unit → CaseState → σ → Prop) :
    Carries respond (play case checked (.performs effects)) before state goal ↔
      goal [] () (before.affected effects) state := by
  induction effects generalizing before goal with
  | nil => simp [Course.performs]
  | cons effect rest induction => simp [Course.performs, induction, affected_cons]

@[simp] theorem carries_play_noteAll (checks : List Check)
    (goal : List Exchange → Unit → CaseState → σ → Prop) :
    Carries respond (play case checked (.noteAll checks)) before state goal ↔
      goal [] () (before.noted checks) state := by
  rw [Course.noteAll, carries_play_performs, affected_checks_eq]

@[simp] theorem carries_play_reacts (made : Context → List Effect)
    (goal : List Exchange → Unit → CaseState → σ → Prop) :
    Carries respond (play case checked (.reacts made)) before state goal ↔
      goal [] () (before.affected (made before.context)) state := by
  simp [Course.reacts]

/-- While return words are compared with it, what is expected is out of the way. -/
theorem carries_play_checkReturns (returns : List UInt32)
    (goal : List Exchange → Unit → CaseState → σ → Prop) :
    Carries respond (play case checked (.checkReturns returns)) before state goal ↔
      goal [] () (before.noted (returnChecks before.expected returns)) state := by
  simp [Course.checkReturns_eq, Course.setExpected, Course.noteReturns, play_bind, returnChecks,
    noted]

end Courses

@[simp] theorem carries_playPlain_done {α : Type} {case : Case} (value : α)
    (goal : List Exchange → α → CaseState → σ → Prop) :
    Carries respond (playPlain case (.done value)) before state goal ↔
      goal [] value before state :=
  Iff.rfl

/-! ### Checked commands -/

section Checked

variable {case : Case} {parameters : List UInt32} {status : Option ExpectedStatus}
  {response : Response} {cause : LinkError}

/-- What is checked of an answer: its status and, on success, its return words. -/
def answerChecks (status : ExpectedStatus) (descriptors : List Descriptor) (response : Response) :
    List Check :=
  status.toCheck "status" response.status
    :: if response.Succeeded then returnChecks descriptors response.returns else []

/-- The state after the answer to a checked command, when the hooks have their turn. -/
def checked (case : Case) (status : Option ExpectedStatus) (before : CaseState)
    (response : Response) : CaseState :=
  (before.answered response).noted
    (answerChecks (statusFor case status before.context) before.expected response)

theorem carries_checkAnswer (status : ExpectedStatus)
    (goal : List Exchange → Unit → CaseState → σ → Prop) :
    Carries respond (playPlain case (checkAnswer status response)) before state goal ↔
      goal [] () (before.noted (answerChecks status before.expected response)) state := by
  by_cases succeeded : response.Succeeded
  · simp [checkAnswer, Course.noteStatus, succeeded, carries_play_checkReturns, affected, noted,
      answerChecks, Effect.checks, Effect.apply]
  · simp [checkAnswer, Course.noteStatus, succeeded, affected, noted, answerChecks,
      Effect.checks, Effect.apply]

/-- A checked command that fails leaves it to the hooks to go on. -/
theorem carries_sendChecked_unanswered
    (answer : respond state (.command (nextHeader case case.message before.token) parameters) =
      (.error cause, next))
    (goal : List Exchange → Option Response → CaseState → σ → Prop) :
    Carries respond (sendChecked case parameters status) before state goal ↔
      Carries respond (playPlain case case.hooks.onSilence) (before.unanswered cause) next
        fun exchanges _ =>
          goal
            ((.command (nextHeader case case.message before.token) parameters, .error cause) ::
              exchanges)
            none := by
  simp [sendChecked, checkedCourse, play_bind, carries_send_unanswered answer]

/-- After the answer to a checked command the hooks go on, and then a late completion is awaited if
it was promised. -/
theorem carries_sendChecked
    (answer : respond state (.command (nextHeader case case.message before.token) parameters) =
      (.ok response, next))
    (goal : List Exchange → Option Response → CaseState → σ → Prop) :
    Carries respond (sendChecked case parameters status) before state goal ↔
      Carries respond (playPlain case (case.hooks.afterResponse response))
        (checked case status before response) next
        fun exchanges _ followed between =>
          Carries respond (playPlain case (awaitPromised case response)) followed between
            fun late _ =>
              goal
                ((.command (nextHeader case case.message before.token) parameters, .ok response) ::
                  (exchanges ++ late))
                (some response) := by
  simp [sendChecked, checkedCourse, play_bind, carries_send_answered answer, carries_checkAnswer,
    checked]

/-- A checked command whose answer is all that is waited for. -/
theorem carries_sendChecked_answered
    (answer : respond state (.command (nextHeader case case.message before.token) parameters) =
      (.ok response, next))
    (immediate : case.delayed = none ∨ ¬response.Succeeded)
    (goal : List Exchange → Option Response → CaseState → σ → Prop) :
    Carries respond (sendChecked case parameters status) before state goal ↔
      Carries respond (playPlain case (case.hooks.afterResponse response))
        (checked case status before response) next
        fun exchanges _ =>
          goal
            ((.command (nextHeader case case.message before.token) parameters, .ok response) ::
              exchanges)
            (some response) := by
  have nothing : awaitPromised case response = .done () := by
    unfold awaitPromised
    rcases immediate with none | refused
    · rw [none]
    · cases case.delayed <;> simp [refused]
  simp [carries_sendChecked answer, nothing]

/-- What a checked command goes on with when its answer promises a late completion. -/
theorem carries_sendChecked_promised {descriptors : List Descriptor}
    (answer : respond state (.command (nextHeader case case.message before.token) parameters) =
      (.ok response, next))
    (expects : case.delayed = some descriptors) (succeeded : response.Succeeded)
    (goal : List Exchange → Option Response → CaseState → σ → Prop) :
    Carries respond (sendChecked case parameters status) before state goal ↔
      Carries respond (playPlain case (case.hooks.afterResponse response))
        (checked case status before response) next
        fun exchanges _ followed between =>
          Carries respond (playPlain case (awaitCompletion response.header descriptors)) followed
            between
            fun late _ =>
              goal
                ((.command (nextHeader case case.message before.token) parameters, .ok response) ::
                  (exchanges ++ late))
                (some response) := by
  have promised :
      awaitPromised case response = awaitCompletion response.header descriptors := by
    simp [awaitPromised, expects, succeeded]
  rw [carries_sendChecked answer, promised]

theorem headerCheck_name (sent received : Header) :
    (headerCheck sent received).name = "delayed header" := by
  unfold headerCheck
  split <;> rfl

theorem carries_awaitCompletion_answered {sent : Header} {descriptors : List Descriptor}
    (answer : respond state (.await .delayedResponse) = (.ok response, next))
    (goal : List Exchange → Unit → CaseState → σ → Prop) :
    Carries respond (playPlain case (awaitCompletion sent descriptors)) before state goal ↔
      goal [(.await .delayedResponse, .ok response)] ()
        (before.noted (completionChecks sent descriptors response)) next := by
  simp [awaitCompletion, carries_await_answered answer]

theorem carries_awaitCompletion_unanswered {sent : Header} {descriptors : List Descriptor}
    (answer : respond state (.await .delayedResponse) = (.error cause, next))
    (goal : List Exchange → Unit → CaseState → σ → Prop) :
    Carries respond (playPlain case (awaitCompletion sent descriptors)) before state goal ↔
      goal [(.await .delayedResponse, .error cause)] ()
        (before.noted [requestFailed "delayed response" cause]) next := by
  simp [awaitCompletion, carries_await_unanswered answer, Late.requestName]

end Checked

/-! ### Scripts -/

section Scripts

variable {α β : Type} {case : Case}

theorem carries_playScript_bind (script : Script α) (after : α → Script β)
    (goal : List Exchange → β → CaseState → σ → Prop) :
    Carries respond (playScript case (script.bind after)) before state goal ↔
      Carries respond (playScript case script) before state fun first value middle between =>
        Carries respond (playScript case (after value)) middle between fun second =>
          goal (first ++ second) := by
  unfold playScript
  rw [play_bind, carries_bind]

@[simp] theorem carries_playScript_perform (effect : Effect) (next : Script α)
    (goal : List Exchange → α → CaseState → σ → Prop) :
    Carries respond (playScript case (.perform effect next)) before state goal ↔
      Carries respond (playScript case next) (before.affected [effect]) state goal := by
  simp

theorem carries_playScript_send (message : UInt8) (parameters : List UInt32)
    (next : Option Response → Script α) (goal : List Exchange → α → CaseState → σ → Prop) :
    Carries respond (playScript case (.send message parameters next)) before state goal ↔
      Carries respond (send case message parameters) before state
        fun first answer middle between =>
          Carries respond (playScript case (next answer)) middle between fun second =>
            goal (first ++ second) :=
  carries_bind _ _ _

theorem carries_playScript_await (late : Late) (next : Option Response → Script α)
    (goal : List Exchange → α → CaseState → σ → Prop) :
    Carries respond (playScript case (.await late next)) before state goal ↔
      Carries respond (await late) before state
        fun first answer middle between =>
          Carries respond (playScript case (next answer)) middle between fun second =>
            goal (first ++ second) :=
  carries_bind _ _ _

theorem carries_playScript_checked (command : CheckedCommand)
    (next : Option Response → Script α) (goal : List Exchange → α → CaseState → σ → Prop) :
    Carries respond (playScript case (.checked command next)) before state goal ↔
      Carries respond (sendChecked case command.parameters command.status) before state
        fun first answer middle between =>
          Carries respond (playScript case (next answer)) middle between fun second =>
            goal (first ++ second) :=
  carries_bind _ _ _

theorem carries_playScript_context (after : Context → Script α)
    (goal : List Exchange → α → CaseState → σ → Prop) :
    Carries respond (playScript case (Course.context.bind after)) before state goal ↔
      Carries respond (playScript case (after before.context)) before state goal :=
  Iff.rfl

end Scripts

end CaseRun

/-! ### Hooks that only perform effects -/

/-- After an answer, the hooks do nothing but to perform some effects. -/
def Hooks.Reacts (hooks : Hooks) (made : Context → Response → List Effect) : Prop :=
  ∀ case response, CaseRun.playPlain case (hooks.afterResponse response) =
    CaseRun.playPlain case (.reacts fun context => made context response)

namespace Hooks.Reacts

theorem nothing {hooks : Hooks} (silent : hooks.afterResponse = fun _ => .done ()) :
    hooks.Reacts fun _ _ => [] := by
  intro case response
  rw [silent]
  rfl

theorem performs {hooks : Hooks} {made : Response → List Effect}
    (performs : hooks.afterResponse = fun response => .performs (made response)) :
    hooks.Reacts fun _ response => made response := by
  intro case response
  rw [performs]
  rfl

theorem gate (gate : Gate) :
    gate.hooks.Reacts fun context response => gate.afterResponse response context :=
  fun _ _ => rfl

end Hooks.Reacts

namespace CaseRun

open CaseState

variable {σ : Type w} {respond : Responder σ} {before : CaseState} {state next : σ} {case : Case}
  {parameters : List UInt32} {status : Option ExpectedStatus} {response : Response}
  {made : Context → Response → List Effect}

/-- The state after a checked command whose hooks perform some effects. -/
def reacted (case : Case) (status : Option ExpectedStatus) (before : CaseState)
    (response : Response) (made : Context → Response → List Effect) : CaseState :=
  (checked case status before response).affected (made before.context response)

theorem carries_afterResponse (reacts : case.hooks.Reacts made)
    (goal : List Exchange → Unit → CaseState → σ → Prop) :
    Carries respond (playPlain case (case.hooks.afterResponse response)) before state goal ↔
      goal [] () (before.affected (made before.context response)) state := by
  rw [reacts case response]
  exact carries_play_reacts _ goal

theorem carries_sendChecked_reacted (reacts : case.hooks.Reacts made)
    (answer : respond state (.command (nextHeader case case.message before.token) parameters) =
      (.ok response, next))
    (immediate : case.delayed = none ∨ ¬response.Succeeded)
    (goal : List Exchange → Option Response → CaseState → σ → Prop) :
    Carries respond (sendChecked case parameters status) before state goal ↔
      goal [(.command (nextHeader case case.message before.token) parameters, .ok response)]
        (some response) (reacted case status before response made) next := by
  rw [carries_sendChecked_answered answer immediate, carries_afterResponse reacts]
  rfl

end CaseRun

/-! ### A case as one course -/

namespace Course

variable {κ ι α : Type}

/-- Puts a course in the place of each checked command. -/
def expand (course : κ → Course ι (Option Response)) : Course κ α → Course ι α
  | done value => done value
  | perform effect next => perform effect (next.expand course)
  | expect expected next => expect expected (next.expand course)
  | view next => view fun seen => (next seen).expand course
  | send message parameters next =>
      send message parameters fun answer => (next answer).expand course
  | await late next => await late fun answer => (next answer).expand course
  | checked command next => (course command).bind fun answer => (next answer).expand course

end Course

namespace Case

/-- What a case does that has no script of its own, or leaves it to be done. -/
def fixedScript (case : Case) : Script Unit :=
  .view fun seen =>
    match CaseRun.fixedParameters case seen.context with
    | .error fault => .perform (.check fault) (.done ())
    | .ok parameters => .checked { parameters } fun _ => .done ()

/-- Everything that a case does, with the checked commands left open. -/
def script (case : Case) : Script Unit :=
  case.hooks.execute.bind fun
    | .handled => .done ()
    | .standard => case.fixedScript

def course (case : Case) : PlainCourse Unit :=
  case.script.expand (CaseRun.checkedCourse case)

end Case

namespace CaseRun

/-- Checked commands may be played as they come, or put in their places before. -/
theorem playPlain_expand {κ α : Type} (case : Case) (course : κ → PlainCourse (Option Response))
    (script : Course κ α) :
    playPlain case (script.expand course) =
      play case (fun command => playPlain case (course command)) script := by
  induction script with
  | done value => rfl
  | perform effect next induction => simp [Course.expand, induction]
  | expect expected next induction => simp [Course.expand, induction]
  | view next induction => simp [Course.expand, induction]
  | send message parameters next induction => simp [Course.expand, induction]
  | await late next induction => simp [Course.expand, induction]
  | checked command next induction => simp [Course.expand, play_bind, induction]

private theorem sendFixed_eq_play (case : Case) :
    sendFixed case = playScript case case.fixedScript := by
  unfold sendFixed Case.fixedScript playScript play
  congr 1
  funext state
  cases fixed : fixedParameters case state.context with
  | error fault => simp [fixed, perform]
  | ok parameters => simp [fixed]

theorem perform?_eq_playScript (case : Case) : perform? case = playScript case case.script := by
  unfold perform? Case.script playScript
  rw [play_bind]
  congr 1
  funext execution
  cases execution with
  | handled => rfl
  | standard => exact sendFixed_eq_play case

theorem perform?_eq_playPlain (case : Case) : perform? case = playPlain case case.course := by
  rw [perform?_eq_playScript, Case.course, playPlain_expand]
  rfl

end CaseRun

end PlatformAudit
