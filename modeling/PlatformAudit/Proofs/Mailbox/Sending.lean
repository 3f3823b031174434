import PlatformAudit.Proofs.Link.Requests
import PlatformAudit.Proofs.Mailbox.Exchange
import PlatformAudit.Proofs.Mailbox.StatusWord

/-!
# Commands and answers in one file

A command is written over the start of the message file and the doorbell is rung; what the platform
then leaves in the file is the answer.  The command does not hand the channel back, and it covers
whatever stood there before, so neither an old answer nor the command itself is taken for an answer.
An answer tells the status that the platform sent, unless it calls itself a notification.
-/

universe u

namespace PlatformAudit

open LittleEndian

namespace Mailbox

/-- Some bytes hand the channel back to the agent: the channel status is there, and its lowest bit
is set. -/
def HandsBack (bytes : List UInt8) : Prop :=
  8 ≤ bytes.length ∧ numberAt bytes 0x04 % 2 = 1

instance (bytes : List UInt8) : Decidable (HandsBack bytes) :=
  inferInstanceAs (Decidable (_ ∧ _))

theorem isFree_iff (bytes : List UInt8) : Frame.isFree bytes = true ↔ HandsBack bytes := by
  have small : numberAt bytes 0x04 < 0x100000000 := numberAt_lt bytes 0x04
  have number : (UInt32.ofNat (numberAt bytes 0x04)).toNat = numberAt bytes 0x04 :=
    UInt32.toNat_ofNat_of_lt' small
  have masks : Frame.channelStatusBits &&& Frame.free = 1 := by decide
  have status : wordAt? bytes Frame.channelStatusOffset =
      if 8 ≤ bytes.length then some (UInt32.ofNat (numberAt bytes 0x04)) else none :=
    wordAt?_eq bytes 0x04
  rw [Frame.isFree, Frame.channelStatus?, status, HandsBack]
  by_cases long : 8 ≤ bytes.length
  · simp only [if_pos long, Option.map_some, beq_iff_eq, UInt32.and_assoc, masks]
    rw [← UInt32.toNat_inj, UInt32.toNat_and, number]
    change numberAt bytes 0x04 &&& 1 = 1 ↔ _
    rw [Nat.and_one_is_mod, and_iff_right long]
  · simp [long]

theorem handsBack_take (bytes : List UInt8) : HandsBack (bytes.take 0x80) ↔ HandsBack bytes := by
  rw [HandsBack, HandsBack, List.length_take, numberAt_take (by omega)]
  omega

/-- What a command is answered with if the platform leaves some bytes in the message file. -/
inductive Settles (limitMs : Nat) (sent : Header) (bytes : List UInt8) : Answer → Prop where
  | silent (kept : ¬HandsBack bytes) : Settles limitMs sent bytes (.error (.silence limitMs))
  | malformed (back : HandsBack bytes) {cause : FrameError}
      (refused : Frame.toResponse (bytes.take 0x80) = .error cause) :
      Settles limitMs sent bytes (.error (.frame cause))
  | foreign (back : HandsBack bytes) {response : Response}
      (read : Frame.toResponse (bytes.take 0x80) = .ok response)
      (other : ¬(sent.protocol = response.header.protocol ∧
        sent.message = response.header.message)) :
      Settles limitMs sent bytes (.error (.foreignAnswer sent response.header))
  | answered (back : HandsBack bytes) {response : Response}
      (read : Frame.toResponse (bytes.take 0x80) = .ok response)
      (same : sent.protocol = response.header.protocol ∧
        sent.message = response.header.message) :
      Settles limitMs sent bytes (.ok response)

section Collect

variable {mailbox : Mailbox} {bytes : List UInt8}

theorem collect_of_file (limitMs : Nat) (inMessage : mailbox.message = .file bytes) :
    mailbox.collect limitMs =
      if HandsBack bytes then ofFrame (Frame.toResponse (bytes.take 0x80))
      else .error (.silence limitMs) := by
  have read : buffer mailbox.message = bytes.take 0x80 := by
    rw [inMessage]
    rfl
  have free : Frame.isFree (bytes.take 0x80) = true ↔ HandsBack bytes :=
    (isFree_iff _).trans (handsBack_take bytes)
  simp only [collect, read, free]

/-- The answer to a command is settled by the bytes in the message file. -/
theorem acceptAnswer_collect_iff (limitMs : Nat) (inMessage : mailbox.message = .file bytes)
    (sent : Header) (answer : Answer) :
    Link.acceptAnswer sent (mailbox.collect limitMs) = answer ↔
      Settles limitMs sent bytes answer := by
  rw [collect_of_file limitMs inMessage]
  constructor
  · rintro rfl
    by_cases back : HandsBack bytes
    · rw [if_pos back]
      cases read : Frame.toResponse (bytes.take 0x80) with
      | error cause => exact .malformed back read
      | ok response =>
          by_cases same : sent.Matches response.header
          · have accepted : Link.acceptAnswer sent (ofFrame (.ok response)) = .ok response :=
              if_pos same
            rw [accepted]
            exact .answered back read same
          · have refused : Link.acceptAnswer sent (ofFrame (.ok response)) =
                .error (.foreignAnswer sent response.header) := if_neg same
            rw [refused]
            exact .foreign back read same
    · rw [if_neg back]
      exact .silent back
  · intro settles
    cases settles with
    | silent kept =>
        rw [if_neg kept]
        rfl
    | malformed back refused =>
        rw [if_pos back, refused]
        rfl
    | foreign back read other =>
        rw [if_pos back, read]
        exact if_neg other
    | answered back read same =>
        rw [if_pos back, read]
        exact if_pos same

end Collect

/-! ### What is sent -/

def ofFiles (message signal : List UInt8) (notification : Option Channel) : Mailbox where
  message := .file message
  signal := .file signal
  notification

section Send

variable {ρ : Type u} {header : Header} {parameters : List UInt32}

/-- A command that fits is what the platform finds at the start of the message file, with the
doorbell rung, and all other bytes as they were. -/
theorem send_of_files (limitMs : Nat) (react : Reaction ρ) (platform : ρ)
    (message signal : List UInt8) (notification : Option Channel) (few : parameters.length ≤ 25) :
    (link limitMs react).send (ofFiles message signal notification, platform) header parameters =
      let (answered, next) := react platform
        (ofFiles (Frame.build 0 header parameters ++ message.drop 0x80) (1 :: signal.drop 1)
          notification)
      (Link.acceptAnswer header (answered.collect limitMs), answered, next) := by
  have notMany : ¬maxPayloadWords < parameters.length := Nat.not_lt.mpr few
  have written : Channel.splice message 0 (Frame.build 0 header parameters) =
      Frame.build 0 header parameters ++ message.drop 0x80 := by
    rw [Channel.splice_start, Frame.length_build few]
  have rung : Channel.splice signal 0 [doorbell] = 1 :: signal.drop 1 :=
    Channel.splice_start signal [doorbell]
  have exchanged :
      exchange limitMs react (ofFiles message signal notification, platform) header parameters = _ :=
    exchange_of_files limitMs react platform rfl rfl few
  rw [written, rung] at exchanged
  rw [Link.send, if_neg notMany]
  simp only [link, exchanged]
  rfl

theorem not_handsBack_command (few : parameters.length ≤ 25) (behind : List UInt8) :
    ¬HandsBack (Frame.build 0 header parameters ++ behind) := by
  have whole : (Frame.build 0 header parameters).length = 0x80 := Frame.length_build few
  have start : (Frame.build 0 header parameters ++ behind).take 0x80 =
      Frame.build 0 header parameters := by
    rw [← whole]
    exact List.take_left
  rw [← handsBack_take, start, ← isFree_iff, Frame.isFree_build few]
  decide

theorem toResponse_of_collect {mailbox : Mailbox} {limitMs : Nat} {response : Response}
    (collected : mailbox.collect limitMs = .ok response) :
    Frame.toResponse (buffer mailbox.message) = .ok response := by
  simp only [collect] at collected
  split at collected
  · cases read : Frame.toResponse (buffer mailbox.message) with
    | error cause =>
        rw [read] at collected
        cases collected
    | ok other =>
        rw [read] at collected
        cases collected
        rfl
  · cases collected

theorem collect_of_exchange {limitMs : Nat} {react : Reaction ρ} {before after : Mailbox × ρ}
    {response : Response}
    (exchanged : exchange limitMs react before header parameters = (.ok response, after)) :
    after.1.collect limitMs = .ok response := by
  obtain ⟨mailbox, platform⟩ := before
  simp only [exchange] at exchanged
  split at exchanged
  case h_1 => cases exchanged
  case h_2 =>
    split at exchanged
    case h_1 => cases exchanged
    case h_2 =>
      split at exchanged
      case h_1 => cases exchanged
      case h_2 =>
        simp only [Prod.mk.injEq] at exchanged
        obtain ⟨collected, rfl⟩ := exchanged
        exact collected

/-- An accepted answer is read from what is in the message file afterwards. -/
theorem toResponse_of_send {limitMs : Nat} {react : Reaction ρ} {before after : Mailbox × ρ}
    {response : Response}
    (answered : (link limitMs react).send before header parameters = (.ok response, after)) :
    Frame.toResponse (buffer after.1.message) = .ok response := by
  rw [Link.send] at answered
  split at answered
  · cases answered
  · simp only [Prod.mk.injEq] at answered
    obtain ⟨accepted, rfl⟩ := answered
    have exchanged := (Link.acceptAnswer_eq_ok_iff.mp accepted).1
    exact toResponse_of_collect (collect_of_exchange (Prod.ext exchanged rfl))

end Send

theorem length_buffer_le (channel : Channel) : (buffer channel).length ≤ 0x80 := by
  cases channel with
  | file bytes => exact List.length_take_le _ _
  | null | stream => exact Nat.zero_le _
  | zero | full => exact Nat.le_of_eq List.length_replicate

/-- Sending a command through files.  One with more than 25 parameters leaves everything as it was.
Any other one is framed into the first 0x80 bytes of the message file, the first byte of the signal
file is set, and no other byte is touched; so much is there when the platform reacts.  A platform
that leaves the message file alone has kept silent, whatever the file held before.  Otherwise the
bytes that it leaves there settle the answer. -/
theorem send_settled_by_file {ρ : Type u} (limitMs : Nat) (react : Reaction ρ) (platform : ρ)
    (message signal : List UInt8) (notification : Option Channel) (header : Header)
    (parameters : List UInt32) :
    let before := ofFiles message signal notification
    let sent := (link limitMs react).send (before, platform) header parameters
    (25 < parameters.length →
      sent = (.error (.tooManyParameters parameters.length 25), before, platform)) ∧
    (parameters.length ≤ 25 →
      ∃ frame, Frame.ofCommand header parameters = .ok frame ∧ frame.length = 0x80 ∧
        let rung := ofFiles (frame ++ message.drop 0x80) (1 :: signal.drop 1) notification
        sent.2 = react platform rung ∧
        (sent.2.1.message = rung.message → sent.1 = .error (.silence limitMs)) ∧
        ∀ bytes, sent.2.1.message = .file bytes →
          ∀ answer, sent.1 = answer ↔ Settles limitMs header bytes answer) ∧
    ∀ response, sent.1 = .ok response → response.header.kind ≠ .notification →
      response.returns.length ≤ 24 := by
  intro before sent
  refine ⟨fun many => if_pos many, fun few => ?_, fun response answered kind => ?_⟩
  · have reacted : sent = _ :=
      send_of_files limitMs react platform message signal notification few
    refine ⟨Frame.build 0 header parameters, Frame.ofCommand_eq_ok_iff.mpr ⟨few, rfl⟩,
      Frame.length_build few, ?_⟩
    intro rung
    have settled (bytes : List UInt8) (left : (react platform rung).1.message = .file bytes)
        (answer : Answer) :
        Link.acceptAnswer header ((react platform rung).1.collect limitMs) = answer ↔
          Settles limitMs header bytes answer :=
      acceptAnswer_collect_iff limitMs left header answer
    rw [reacted]
    refine ⟨rfl, fun untouched => ?_, settled⟩
    exact (settled _ untouched _).mpr (.silent (not_handsBack_command few _))
  · exact Frame.length_returns_le (toResponse_of_send (Prod.ext answered rfl))
      (length_buffer_le _) kind

/-- An answer to a version request that says that the version is denied. -/
def denial : List UInt8 :=
  [0, 0, 0, 0, 1, 0, 0, 0] ++ List.replicate 8 0 ++
    [1, 0, 0, 0, 8, 0, 0, 0, 0, 0x40, 0, 0, 0xFD, 0xFF, 0xFF, 0xFF]

theorem send_settled_by_file_stale :
    let send (reply : Option (List UInt8)) (parameters : List UInt32) :=
      (link defaultLimitMs Reaction.replacing).send (ofFiles denial [0, 9] none, reply)
        (.command Protocol.base 0) parameters
    HandsBack denial ∧
    (send none (List.replicate 26 0)).2 = (ofFiles denial [0, 9] none, none) ∧
    (send none []).1 = .error (.silence defaultLimitMs) ∧
    (send none []).2.1.signal = .file [1, 9] ∧
    (send (some denial) []).1 =
      .ok { header := .command Protocol.base 0, status := Status.denied.code, returns := [] } := by
  intro send
  have back : HandsBack denial := by decide
  have settled (reply : Option (List UInt8)) (parameters : List UInt32) :=
    send_settled_by_file defaultLimitMs Reaction.replacing reply denial [0, 9] none
      (.command Protocol.base 0) parameters
  refine ⟨back, ?_, ?_, ?_, ?_⟩
  · exact congrArg Prod.snd ((settled none (List.replicate 26 0)).1 (by decide))
  · obtain ⟨frame, -, -, reacted, silent, -⟩ := (settled none []).2.1 (by decide)
    exact silent (congrArg (·.1.message) reacted)
  · obtain ⟨frame, -, -, reacted, -⟩ := (settled none []).2.1 (by decide)
    exact congrArg (·.1.signal) reacted
  · obtain ⟨frame, -, -, reacted, -, answers⟩ := (settled (some denial) []).2.1 (by decide)
    exact (answers denial (congrArg (·.1.message) reacted) _).mpr
      (.answered back (by rfl) ⟨rfl, rfl⟩)

/-! ### What an answer tells -/

/-- The status of an answer is the one that the platform sent, and its return words are those behind
the status, unless the answer calls itself a notification.  Then it is a success, whatever stands in
its place, and the word of the status is the first of the return words. -/
theorem send_reports_status {ρ : Type u} (limitMs : Nat) (react : Reaction ρ)
    (before : Mailbox × ρ) (header : Header) (parameters : List UInt32) {response : Response}
    {after : Mailbox × ρ}
    (answered : (link limitMs react).send before header parameters = (.ok response, after)) :
    let reply := buffer after.1.message
    (Frame.Reports reply response.status response.returns ↔ Frame.kindNumber reply ≠ 3) ∧
    (Frame.kindNumber reply = 3 →
      response.Succeeded ∧ response.returns = words (Frame.payloadBytes reply)) ∧
    (response.Succeeded ↔ Frame.kindNumber reply = 3 ∨ numberAt reply 0x1C = 0) := by
  intro reply
  have read : Frame.toResponse reply = .ok response := toResponse_of_send answered
  have kind : Frame.kindNumber reply = 3 ↔ response.header.kind = .notification := by
    have third : MessageKind.notification.code.toNat = 3 := rfl
    rw [Frame.kindNumber_of_toResponse read, ← third, MessageKind.code_inj]
  rw [Ne, kind]
  exact ⟨Frame.reports_iff read, Frame.toResponse_notification read, Frame.succeeded_iff read⟩

/-- A denial that calls itself a notification. -/
def denialAsEvent : List UInt8 :=
  [0, 0, 0, 0, 1, 0, 0, 0] ++ List.replicate 8 0 ++
    [1, 0, 0, 0, 8, 0, 0, 0, 0, 0x43, 0, 0, 0xFD, 0xFF, 0xFF, 0xFF]

/-- A platform that denies a request is taken to have granted it. -/
theorem send_reports_status_denied :
    ∃ response after,
      (link defaultLimitMs Reaction.replacing).send (ofFiles [] [] none, some denialAsEvent)
          (.command Protocol.base 0) [] = (.ok response, after) ∧
        after.1.message = .file denialAsEvent ∧
        numberAt denialAsEvent 0x1C = 0xFFFFFFFD ∧
        response.Succeeded ∧
        ¬Frame.Reports denialAsEvent response.status response.returns := by
  let response : Response :=
    { header := { protocol := Protocol.base, kind := .notification, message := 0 }
      status := 0
      returns := [0xFFFFFFFD] }
  let after : Mailbox × Option (List UInt8) := (ofFiles denialAsEvent [1] none, some denialAsEvent)
  have answered :
      (link defaultLimitMs Reaction.replacing).send (ofFiles [] [] none, some denialAsEvent)
        (.command Protocol.base 0) [] = (.ok response, after) := by
    rfl
  obtain ⟨reports, -, succeeded⟩ := send_reports_status _ _ _ _ _ answered
  exact ⟨response, after, answered, rfl, by decide, succeeded.mpr (.inl (by decide)),
    fun reported => reports.mp reported (by decide)⟩

end Mailbox

end PlatformAudit
