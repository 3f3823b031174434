import PlatformAudit.Mailbox.Served
import PlatformAudit.Platform.Config
import PlatformAudit.Proofs.Link.Requests
import PlatformAudit.Proofs.Mailbox.NotificationFile

/-!
# Waiting for late messages

A wait takes the message that is there if it is of the awaited kind or of none, and leaves it to the
other wait otherwise.  So a message is taken at most once, and never by the wrong wait.

A message that calls itself a command is in the way: no wait is for it, and so it stays.
-/

universe u

namespace PlatformAudit

open LittleEndian

namespace Mailbox

/-! ### One wait -/

/-- What a wait makes of the bytes in a notification file: its answer, and the bytes that are there
afterwards. -/
inductive Waits (limitMs : Nat) (late : Late) (contents : List UInt8) :
    Answer → List UInt8 → Prop where
  | empty (empty : ¬Occupied contents) :
      Waits limitMs late contents (.error (.silence limitMs)) contents
  | other (occupied : Occupied contents) {kind : MessageKind} (tells : Tells contents kind)
      (other : kind ≠ late.kind) :
      Waits limitMs late contents (.error (.unexpectedKind late.kind kind)) contents
  | malformed (meant : MeantFor late contents) {cause : FrameError}
      (refused : Frame.toResponse (contents.take 0x80) = .error cause) :
      Waits limitMs late contents (.error (.frame cause)) (emptied contents)
  | taken (meant : MeantFor late contents) {response : Response}
      (read : Frame.toResponse (contents.take 0x80) = .ok response)
      (awaited : response.header.kind = late.kind) :
      Waits limitMs late contents (.ok response) (emptied contents)

section Waits

variable {contents after : List UInt8} {late : Late} {limitMs : Nat} {answer : Answer}

theorem exists_waits (limitMs : Nat) (late : Late) (contents : List UInt8) :
    ∃ answer after, Waits limitMs late contents answer after := by
  by_cases occupied : Occupied contents
  · rcases meantFor_or_other occupied late with meant | ⟨kind, tells, other⟩
    · cases read : Frame.toResponse (contents.take 0x80) with
      | error cause => exact ⟨_, _, .malformed meant read⟩
      | ok response => exact ⟨_, _, .taken meant read (meant.kind_eq read)⟩
    · exact ⟨_, _, .other occupied tells other⟩
  · exact ⟨_, _, .empty occupied⟩

theorem Waits.take_eq (waits : Waits limitMs late contents answer after) (mailbox : Mailbox) :
    take limitMs (mailbox.notified contents) late = (answer, mailbox.notified after) := by
  cases waits with
  | empty empty => exact take_empty mailbox late empty
  | other occupied tells other => exact take_other mailbox occupied tells other
  | malformed meant refused =>
      rw [take_meant mailbox meant, refused]
      rfl
  | taken meant read awaited =>
      rw [take_meant mailbox meant, read]
      rfl

theorem Waits.acceptLate_eq (waits : Waits limitMs late contents answer after) :
    Link.acceptLate late answer = answer := by
  cases waits with
  | empty | other | malformed => rfl
  | taken meant read awaited => exact if_pos awaited

end Waits

section Await

variable {ρ : Type u} {contents after : List UInt8} {late : Late} {limitMs : Nat} {answer : Answer}

theorem Waits.await_eq (waits : Waits limitMs late contents answer after) (react : Reaction ρ)
    (mailbox : Mailbox) (platform : ρ) :
    (link limitMs react).await (mailbox.notified contents, platform) late =
      (answer, mailbox.notified after, platform) := by
  simp only [Link.await, link, waits.take_eq mailbox, waits.acceptLate_eq]

theorem Waits.fetch_eq (waits : Waits limitMs late contents answer after) (react : Reaction ρ)
    (mailbox : Mailbox) (platform : ρ) :
    (link limitMs react).fetch (mailbox.notified contents, platform) late =
      (answer, mailbox.notified after, platform) := by
  simp only [link, waits.take_eq mailbox]

theorem notified_injective {mailbox : Mailbox} {first second : List UInt8}
    (same : mailbox.notified first = mailbox.notified second) : first = second := by
  have files := congrArg Mailbox.notification same
  cases files
  rfl

/-- A wait does what `Waits` says, and nothing else. -/
theorem await_iff (limitMs : Nat) (react : Reaction ρ) (mailbox : Mailbox) (platform : ρ)
    (contents : List UInt8) (late : Late) (answer : Answer) (after : List UInt8) :
    (link limitMs react).await (mailbox.notified contents, platform) late =
        (answer, mailbox.notified after, platform) ↔
      Waits limitMs late contents answer after := by
  refine ⟨fun awaited => ?_, fun waits => waits.await_eq react mailbox platform⟩
  obtain ⟨given, left, waits⟩ := exists_waits limitMs late contents
  have equality := (waits.await_eq react mailbox platform).symm.trans awaited
  simp only [Prod.mk.injEq] at equality
  obtain ⟨rfl, files, -⟩ := equality
  rwa [← notified_injective files]

end Await

section Holding

variable {ρ : Type u} {react : Reaction ρ} {contents after : List UInt8} {late : Late}
  {limitMs : Nat} {answer : Answer} {state : Mailbox × ρ}

theorem notified_of_notification {mailbox : Mailbox}
    (there : mailbox.notification = some (.file contents)) :
    mailbox.notified contents = mailbox := by
  rw [notified, ← there]

theorem Waits.await_there (waits : Waits limitMs late contents answer after)
    (there : state.1.notification = some (.file contents)) :
    (link limitMs react).await state late = (answer, state.1.notified after, state.2) := by
  have awaited := waits.await_eq react state.1 state.2
  rwa [notified_of_notification there] at awaited

/-- A wait that leaves the file as it is leaves everything as it is. -/
theorem Waits.await_untouched (waits : Waits limitMs late contents answer contents)
    (there : state.1.notification = some (.file contents)) :
    (link limitMs react).await state late = (answer, state) := by
  rw [waits.await_there there, notified_of_notification there]

end Holding

/-! ### Many requests -/

/-- A request at which the platform leaves some bytes in the notification file as they are.  At a
wait it does nothing at all. -/
def Undisturbed {ρ : Type u} (react : Reaction ρ) (contents : List UInt8) : Request → Prop
  | .command _ _ => ∀ platform mailbox, mailbox.notification = some (.file contents) →
      (react platform mailbox).1.notification = some (.file contents)
  | .await _ => True

section Requests

variable {ρ : Type u} {react : Reaction ρ} {contents : List UInt8} {limitMs : Nat}
  {before : Mailbox × ρ} {header : Header} {parameters : List UInt32}

private theorem exists_of_map_eq_ok {written : Except Fault Channel} {put : Channel → Mailbox}
    {mailbox : Mailbox} (wrote : written.map put = .ok mailbox) :
    ∃ channel, put channel = mailbox := by
  cases written with
  | error fault => cases wrote
  | ok channel => exact ⟨channel, Except.ok.inj wrote⟩

theorem notification_writeMessage {mailbox written : Mailbox} {bytes : List UInt8}
    (wrote : mailbox.writeMessage bytes = .ok written) :
    written.notification = mailbox.notification := by
  obtain ⟨message, rfl⟩ := exists_of_map_eq_ok wrote
  rfl

theorem notification_ring {mailbox rung : Mailbox} (rang : mailbox.ring = .ok rung) :
    rung.notification = mailbox.notification := by
  obtain ⟨signal, rfl⟩ := exists_of_map_eq_ok rang
  rfl

theorem notification_exchange
    (undisturbed : Undisturbed react contents (.command header parameters))
    (there : before.1.notification = some (.file contents)) :
    (exchange limitMs react before header parameters).2.1.notification = some (.file contents) := by
  obtain ⟨mailbox, platform⟩ := before
  simp only [exchange]
  split
  case h_1 => exact there
  case h_2 =>
    split
    case h_1 => exact there
    case h_2 written wrote =>
      have inWritten := (notification_writeMessage wrote).trans there
      split
      case h_1 => exact inWritten
      case h_2 rung rang => exact undisturbed _ _ ((notification_ring rang).trans inWritten)

theorem notification_answer {request : Request}
    (there : before.1.notification = some (.file contents))
    (undisturbed : Undisturbed react contents request)
    (ignored : ∀ late, request = .await late → ¬MeantFor late contents) :
    ((link limitMs react).answer before request).2.1.notification = some (.file contents) := by
  cases request with
  | command header parameters =>
      rw [Link.answer, Link.send]
      split
      · exact there
      · exact notification_exchange undisturbed there
  | await late =>
      obtain ⟨answer, after, waits⟩ := exists_waits limitMs late contents
      rw [Link.answer, waits.await_there there]
      cases waits with
      | empty | other => rfl
      | malformed meant | taken meant => exact absurd meant (ignored late rfl)

theorem notification_after {requests : List Request}
    (there : before.1.notification = some (.file contents))
    (undisturbed : ∀ request ∈ requests, Undisturbed react contents request)
    (ignored : ∀ late, .await late ∈ requests → ¬MeantFor late contents) :
    ((link limitMs react).after before requests).1.notification = some (.file contents) := by
  have step (state : Mailbox × ρ) (request : Request)
      (holds : state.1.notification = some (.file contents)) (member : request ∈ requests) :
      ((link limitMs react).answer state request).2.1.notification = some (.file contents) :=
    notification_answer holds (undisturbed request member)
      fun late same => ignored late (same ▸ member)
  have kept := Link.after_keeps_of step there fun request (member : request ∈ requests) => member
  exact kept

end Requests

/-! ### Every message is taken at most once -/

section Once

variable {ρ : Type u} (limitMs : Nat) (react : Reaction ρ) (mailbox : Mailbox) (platform : ρ)
  {contents : List UInt8}

theorem await_empty (empty : ¬Occupied contents) (late : Late) :
    (link limitMs react).await (mailbox.notified contents, platform) late =
      (.error (.silence limitMs), mailbox.notified contents, platform) :=
  (Waits.empty empty).await_eq react mailbox platform

theorem await_other {kind : MessageKind} (occupied : Occupied contents)
    (tells : Tells contents kind) {late : Late} (other : kind ≠ late.kind) :
    (link limitMs react).await (mailbox.notified contents, platform) late =
      (.error (.unexpectedKind late.kind kind), mailbox.notified contents, platform) :=
  (Waits.other occupied tells other).await_eq react mailbox platform

theorem await_meant {late : Late} (meant : MeantFor late contents) :
    (link limitMs react).await (mailbox.notified contents, platform) late =
      (ofFrame (Frame.toResponse (contents.take 0x80)), mailbox.notified (emptied contents),
        platform) := by
  cases read : Frame.toResponse (contents.take 0x80) with
  | error cause => exact (Waits.malformed meant read).await_eq react mailbox platform
  | ok response =>
      exact (Waits.taken meant read (meant.kind_eq read)).await_eq react mailbox platform

/-- A late message is taken at most once, and never by the wrong wait.  A wait does what `Waits`
says, and the check of the link refuses nothing that was taken.  After a message was taken, every
wait finds the file empty until the platform writes there again.  A message that tells the awaited
kind is returned as it was when it came, whatever is asked in between, as long as that is not the
same wait and the platform does not write there. -/
theorem await_takes_once (contents : List UInt8) (late : Late) :
    let link := link limitMs react
    let state (bytes : List UInt8) : Mailbox × ρ := (mailbox.notified bytes, platform)
    (∃ answer after, link.await (state contents) late = (answer, state after)) ∧
    (∀ answer after, link.await (state contents) late = (answer, state after) ↔
      Waits limitMs late contents answer after) ∧
    link.await (state contents) late = link.fetch (state contents) late ∧
    (Occupied contents → ∀ requests : List Request,
      (∀ request ∈ requests, Undisturbed react (emptied contents) request) →
      let rest := link.after (state (emptied contents)) requests
      rest.1.notification = some (.file (emptied contents)) ∧
      ∀ again, link.await rest again = (.error (.silence limitMs), rest)) ∧
    (Occupied contents → Tells contents late.kind → ∀ requests : List Request,
      (∀ request ∈ requests, Undisturbed react contents request ∧ request ≠ .await late) →
      (link.await (link.after (state contents) requests) late).1 =
        ofFrame (Frame.toResponse (contents.take 0x80))) := by
  intro link state
  obtain ⟨answer, after, waits⟩ := exists_waits limitMs late contents
  refine ⟨⟨answer, after, waits.await_eq react mailbox platform⟩,
    await_iff limitMs react mailbox platform contents late,
    (waits.await_eq react mailbox platform).trans (waits.fetch_eq react mailbox platform).symm,
    fun occupied requests undisturbed => ?_, fun occupied tells requests undisturbed => ?_⟩
  · intro rest
    have empty : ¬Occupied (emptied contents) := not_occupied_emptied occupied
    have there : rest.1.notification = some (.file (emptied contents)) :=
      notification_after rfl undisturbed fun _ _ meant => empty meant.1
    exact ⟨there, fun again => (Waits.empty empty).await_untouched there⟩
  · have ignored (other : Late) (member : .await other ∈ requests) : ¬MeantFor other contents := by
      intro meant
      have same : late = other := Late.kind_inj.mp (meant.2 _ tells)
      exact (undisturbed _ member).2 (congrArg Request.await same.symm)
    have there : (link.after (state contents) requests).1.notification = some (.file contents) :=
      notification_after rfl (fun request member => (undisturbed request member).1) ignored
    have meant : MeantFor late contents := (meantFor_iff_of_tells occupied tells).mpr rfl
    have taken := await_meant limitMs react (link.after (state contents) requests).1
      (link.after (state contents) requests).2 meant
    rw [notified_of_notification there] at taken
    exact congrArg Prod.fst taken

def completion : List UInt8 :=
  List.replicate 0x14 0 ++ [12, 0, 0, 0, 4, 0x46, 0, 0, 0, 0, 0, 0, 7, 0, 0, 0]

theorem await_takes_once_completion :
    let link := link defaultLimitMs Reaction.replacing
    let state (bytes : List UInt8) : Mailbox × Option (List UInt8) :=
      ({ message := .null, signal := .null, notification := some (.file bytes) }, none)
    (link.await (link.after (state completion) [.await .notification, .await .notification])
      .delayedResponse).1 =
        .ok
          { header := { protocol := 0x11, kind := .delayedResponse, message := 4 }
            status := 0
            returns := [7] } ∧
    (link.await (link.after (state (emptied completion)) [.await .notification])
      .delayedResponse).1 = .error (.silence defaultLimitMs) := by
  intro link state
  have occupied : Occupied completion := by decide
  obtain ⟨-, -, -, once, intact⟩ := await_takes_once defaultLimitMs Reaction.replacing
    { message := .null, signal := .null } none completion .delayedResponse
  refine ⟨?_, ?_⟩
  · refine (intact occupied (by decide) [.await .notification, .await .notification] ?_).trans
      (by rfl)
    simp [Undisturbed]
  · obtain ⟨-, silence⟩ := once occupied [.await .notification] (by simp [Undisturbed])
    exact congrArg Prod.fst (silence .delayedResponse)

end Once

/-! ### A message that stays -/

/-- A switchboard behind a mailbox does not write over a message that has not been taken. -/
theorem undisturbed_serve {α : Type u} [Attendant α] {contents : List UInt8}
    (occupied : Occupied contents) (request : Request) :
    Undisturbed (Switchboard.serve : Reaction (Switchboard α)) contents request := by
  cases request with
  | await late => trivial
  | command header parameters =>
      intro board mailbox there
      have full : ¬Switchboard.canStage (.file contents) = true := by
        intro empty
        have length : wordAt? (contents.take 0x80) Frame.lengthOffset = some 0 :=
          of_decide_eq_true empty
        have holds := (holdsMessage_iff _).mpr ((occupied_take contents).mpr occupied)
        rw [holdsMessage, length] at holds
        cases holds
      have staged (handled : Switchboard α) : handled.stage mailbox = (mailbox, handled) := by
        rw [Switchboard.stage, there]
        exact if_neg full
      have kept (handled : Switchboard α) (response : Response) :
          (handled.writeAnswer mailbox response).1.notification = some (.file contents) := by
        rw [Switchboard.writeAnswer, staged]
        exact there
      unfold Switchboard.serve
      split
      · exact there
      · split <;> exact kept _ _

section Stays

variable {ρ : Type u} {react : Reaction ρ} {contents : List UInt8} {limitMs : Nat}

/-- A message that is no command is taken by one of two different waits: by the first one, or by the
second one after the first has found that it is not for it. -/
theorem both_waits_take (mailbox : Mailbox) (platform : ρ) (occupied : Occupied contents)
    {first second : Late} (different : first ≠ second) (noCommand : ¬Tells contents .command) :
    let state (bytes : List UInt8) : Mailbox × ρ := (mailbox.notified bytes, platform)
    let waits : List Request := [.await first, .await second]
    let message := ofFrame (Frame.toResponse (contents.take 0x80))
    (link limitMs react).after (state contents) waits = state (emptied contents) ∧
    ((link limitMs react).answers (state contents) waits = [message, .error (.silence limitMs)] ∨
      (link limitMs react).answers (state contents) waits =
        [.error (.unexpectedKind first.kind second.kind), message]) := by
  intro state waits message
  rcases meantFor_or_tells occupied different noCommand with meant | tells
  · have one := await_meant limitMs react mailbox platform meant
    have two := await_empty limitMs react mailbox platform (not_occupied_emptied occupied) second
    refine ⟨?_, .inl ?_⟩
    · simp only [Link.after, Link.answer, waits, state, one, two]
    · simp only [Link.answers, Link.answer, waits, state, one, two, message]
  · have other : second.kind ≠ first.kind := fun same => different (Late.kind_inj.mp same).symm
    have one := await_other limitMs react mailbox platform occupied tells other
    have two := await_meant limitMs react mailbox platform
      ((meantFor_iff_of_tells occupied tells).mpr rfl)
    refine ⟨?_, .inr ?_⟩
    · simp only [Link.after, Link.answer, waits, state, one, two]
    · simp only [Link.answers, Link.answer, waits, state, one, two, message]

/-- A command stays through any requests, and every wait finds it in its way. -/
theorem command_stays {before : Mailbox × ρ} (occupied : Occupied contents)
    (command : Tells contents .command) (there : before.1.notification = some (.file contents))
    {requests : List Request}
    (undisturbed : ∀ request ∈ requests, Undisturbed react contents request) :
    let rest := (link limitMs react).after before requests
    rest.1.notification = some (.file contents) ∧
    ∀ late, (link limitMs react).await rest late =
      (.error (.unexpectedKind late.kind .command), rest) := by
  intro rest
  have kept : rest.1.notification = some (.file contents) :=
    notification_after there undisturbed fun _ _ => not_meantFor_of_command command
  exact ⟨kept, fun late =>
    (Waits.other occupied command late.kind_ne_command.symm).await_untouched kept⟩

end Stays

/-- Of two different waits one takes the message, unless it tells that it is a command.  What was
taken is returned by the first wait, or by the second one after the first has found that it is not
for it.  A command stays for good: both waits find that it is not for them, and nothing else can be
put in its place unless the platform writes over it. -/
theorem both_waits_empty_iff {ρ : Type u} (limitMs : Nat) (react : Reaction ρ) (mailbox : Mailbox)
    (platform : ρ) {contents : List UInt8} (occupied : Occupied contents) {first second : Late}
    (different : first ≠ second) :
    let link := link limitMs react
    let state (bytes : List UInt8) : Mailbox × ρ := (mailbox.notified bytes, platform)
    let waits : List Request := [.await first, .await second]
    let message := ofFrame (Frame.toResponse (contents.take 0x80))
    ((∃ left, link.after (state contents) waits = state left ∧ Frame.declaredLength left = 0) ↔
      ¬Tells contents .command) ∧
    (¬Tells contents .command →
      link.after (state contents) waits = state (emptied contents) ∧
      (link.answers (state contents) waits = [message, .error (.silence limitMs)] ∨
        link.answers (state contents) waits =
          [.error (.unexpectedKind first.kind second.kind), message])) ∧
    (Tells contents .command → ∀ requests : List Request,
      (∀ request ∈ requests, Undisturbed react contents request) →
      let rest := link.after (state contents) requests
      rest.1.notification = some (.file contents) ∧
      ∀ late, link.await rest late = (.error (.unexpectedKind late.kind .command), rest)) := by
  intro link state waits message
  have taken (noCommand : ¬Tells contents .command) :
      link.after (state contents) waits = state (emptied contents) ∧ _ :=
    both_waits_take mailbox platform occupied different noCommand
  refine ⟨⟨?_, fun noCommand => ⟨_, (taken noCommand).1, declaredLength_emptied occupied⟩⟩,
    taken, fun command requests => command_stays occupied command rfl⟩
  rintro ⟨left, after, empty⟩ command
  have undisturbed : ∀ request ∈ waits, Undisturbed react contents request := by
    simp [waits, Undisturbed]
  have there : (link.after (state contents) waits).1.notification = some (.file contents) :=
    (command_stays occupied command rfl undisturbed).1
  rw [after] at there
  cases there
  exact occupied.2 empty

/-- A command in the notification file keeps out the completion of what is asked for later. -/
theorem both_waits_empty_iff_versionRequest :
    let link := link defaultLimitMs Switchboard.serve
    let state (bytes : List UInt8) : Mailbox × Switchboard Service :=
      ({ message := .file [], signal := .file [], notification := some (.file bytes) },
        PlatformConfig.standard.switchboard)
    Occupied Frame.versionRequest ∧
    (¬∃ left,
      link.after (state Frame.versionRequest) [.await .delayedResponse, .await .notification] =
        state left ∧ Frame.declaredLength left = 0) ∧
    (link.await
      (link.after (state Frame.versionRequest)
        [.command (.command Protocol.power Power.stateSet) [1, 0, Power.stateOff]])
      .delayedResponse).1 = .error (.unexpectedKind .delayedResponse .command) ∧
    link.after (state completion) [.await .notification, .await .delayedResponse] =
      state (emptied completion) := by
  intro link state
  have occupied : Occupied Frame.versionRequest := by decide
  have command : Tells Frame.versionRequest .command := by decide
  obtain ⟨emptied, -, stays⟩ := both_waits_empty_iff defaultLimitMs Switchboard.serve
    (state []).1 (state []).2 occupied (show Late.delayedResponse ≠ .notification by decide)
  obtain ⟨-, taken, -⟩ := both_waits_empty_iff defaultLimitMs Switchboard.serve
    (state []).1 (state []).2 (show Occupied completion by decide)
    (show Late.notification ≠ .delayedResponse by decide)
  refine ⟨occupied, fun left => emptied.mp left command, ?_, (taken (by decide)).1⟩
  exact congrArg Prod.fst
    ((stays command _ fun request _ => undisturbed_serve occupied request).2 .delayedResponse)

end Mailbox

end PlatformAudit
