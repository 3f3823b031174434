import PlatformAudit.Proofs.Files.Channel
import PlatformAudit.Proofs.Mailbox.FrameRoundTrip
import PlatformAudit.Proofs.Mailbox.Waiting
import PlatformAudit.Proofs.Platform.Posts
import PlatformAudit.Proofs.Platform.ReplySizes

/-!
# Messages through files

A frame overwrites the whole buffer at the start of a file, and as much is read again.  So what a
file held before does not matter: the platform finds the command that was written, the agent finds
the answer, and a late message is taken as it was posted.
-/

universe u v

namespace PlatformAudit

open LittleEndian

namespace Frame

variable {channelStatus : UInt32} {header : Header} {payload : List UInt32}

theorem isFree_build (fits : payload.length ≤ maxPayloadWords) :
    isFree (build channelStatus header payload) =
      (channelStatus &&& channelStatusBits &&& free == free) := by
  have status : wordAt? (build channelStatus header payload) channelStatusOffset =
      some channelStatus := wordAt?_build fits 1
  rw [isFree, channelStatus?, status]
  rfl

theorem occupied_build (fits : payload.length ≤ maxPayloadWords) :
    Mailbox.Occupied (build channelStatus header payload) := by
  rw [Mailbox.Occupied, length_build fits, declaredLength_build fits]
  omega

theorem tells_build (fits : payload.length ≤ maxPayloadWords) :
    Mailbox.Tells (build channelStatus header payload) header.kind := by
  have decoded : Header.decode (headerWord (build channelStatus header payload)) =
      .ok header.carried := by
    rw [headerWord_build fits, Header.decode_encode]
  have number := kindNumber_of_decode decoded
  rw [Header.carried_kind] at number
  rw [Mailbox.Tells, length_build fits]
  exact ⟨by decide, number⟩

end Frame

namespace Mailbox

/-- What was written to the start of a file is read as its buffer, if it is a whole buffer. -/
theorem buffer_written (contents : List UInt8) {bytes : List UInt8} (whole : bytes.length = 0x80) :
    buffer (.file (Channel.splice contents 0 bytes)) = bytes := by
  have read := Channel.readUpTo_splice_start contents bytes
  rwa [whole] at read

section Exchange

variable {ρ : Type u} {mailbox : Mailbox} {message signal : List UInt8} {header : Header}
  {parameters : List UInt32}

/-- A command that fits is written, the doorbell is rung, and what the platform leaves is read. -/
theorem exchange_of_files (limitMs : Nat) (react : Reaction ρ) (platform : ρ)
    (inMessage : mailbox.message = .file message) (inSignal : mailbox.signal = .file signal)
    (few : parameters.length ≤ 25) :
    exchange limitMs react (mailbox, platform) header parameters =
      let rung : Mailbox :=
        { mailbox with
          message := .file (Channel.splice message 0 (Frame.build 0 header parameters))
          signal := .file (Channel.splice signal 0 [doorbell]) }
      let (answered, next) := react platform rung
      (answered.collect limitMs, answered, next) := by
  have framed : Frame.ofCommand header parameters = .ok (Frame.build 0 header parameters) :=
    Frame.ofCommand_eq_ok_iff.mpr ⟨few, rfl⟩
  simp only [exchange, framed, writeMessage, ring, inMessage, inSignal, Channel.writeAt, Except.map]

theorem collect_framed (limitMs : Nat) {contents : List UInt8} {response : Response}
    {bytes : List UInt8} (fits : response.FitsMessage)
    (framed : Frame.ofResponse response = .ok bytes)
    (inMessage : mailbox.message = .file (Channel.splice contents 0 bytes)) :
    mailbox.collect limitMs = .ok response := by
  have read := Frame.toResponse_ofResponse fits.kind framed
  rw [Header.carried_of_fits fits.header] at read
  obtain ⟨short, same⟩ := (Frame.ofResponse_eq_ok_iff fits.kind).mp framed
  have room : (response.status.toUInt32 :: response.returns).length ≤ maxPayloadWords :=
    Nat.succ_le_succ short
  have whole : bytes.length = 0x80 := by
    rw [same]
    exact Frame.length_build room
  have free : Frame.isFree bytes = true := by
    rw [same, Frame.isFree_build room]
    decide
  simp only [collect, inMessage, buffer_written contents whole, free, if_true, read]
  rfl

end Exchange

end Mailbox

/-! ### Late messages -/

theorem Switchboard.writeResponse_file (contents : List UInt8) {response : Response}
    {bytes : List UInt8} (framed : Frame.ofResponse response = .ok bytes) :
    writeResponse (.file contents) response = .file (Channel.splice contents 0 bytes) := by
  simp only [writeResponse, framed, Channel.writeAt]

/-- The largest number of return words of a late message of some kind. -/
def Late.maxReturns : Late → Nat
  | .delayedResponse => 24
  | .notification => 25

namespace Post

theorem framed (post : Post) (inRange : post.response.header.Fits)
    (fits : post.response.returns.length ≤ post.late.maxReturns) :
    ∃ payload : List UInt32, payload.length ≤ 25 ∧
      Frame.ofResponse post.response =
        .ok (Frame.build Frame.free post.response.header payload) ∧
      Frame.toResponse (Frame.build Frame.free post.response.header payload) =
        .ok post.response := by
  cases post with
  | delayed command status returns =>
      have kind : (delayed command status returns).response.header.kind ≠ .notification := by
        simp [response]
      have framed := (Frame.ofResponse_eq_ok_iff kind).mpr ⟨fits, rfl⟩
      have read := Frame.toResponse_ofResponse kind framed
      rw [Header.carried_of_fits inRange] at read
      exact ⟨status.toUInt32 :: returns, Nat.succ_le_succ fits, framed, read⟩
  | notification protocol message payload =>
      have kind : (notification protocol message payload).response.header.kind =
        .notification := rfl
      have framed := (Frame.ofResponse_notification_eq_ok_iff kind).mpr ⟨fits, rfl⟩
      have read := Frame.toResponse_ofResponse_notification kind framed
      rw [Header.carried_of_fits inRange] at read
      exact ⟨payload, fits, framed, read⟩

end Post

/-- A posted message that fits is taken out of the notification file as it is. -/
theorem Mailbox.await_staged {ρ : Type v} (limitMs : Nat) (react : Reaction ρ) (platform : ρ)
    (mailbox : Mailbox) (contents : List UInt8) (post : Post)
    (inRange : post.response.header.Fits)
    (fits : post.response.returns.length ≤ post.late.maxReturns) :
    ((Mailbox.link limitMs react).await
      ({ mailbox with
          notification := some (Switchboard.writeResponse (.file contents) post.response) },
        platform) post.late).1 = .ok post.response := by
  obtain ⟨payload, room, framed, read⟩ := post.framed inRange fits
  let written := Channel.splice contents 0 (Frame.build Frame.free post.response.header payload)
  have start : written.take 0x80 = Frame.build Frame.free post.response.header payload :=
    buffer_written contents (Frame.length_build room)
  have occupied : Occupied written := by
    rw [← occupied_take, start]
    exact Frame.occupied_build room
  have tells : Tells written post.late.kind := by
    rw [← tells_take, start, ← post.kind_response]
    exact Frame.tells_build room
  have awaited := await_meant limitMs react mailbox platform
    ((meantFor_iff_of_tells occupied tells).mpr rfl)
  rw [start, read] at awaited
  rw [Switchboard.writeResponse_file contents framed]
  exact congrArg Prod.fst awaited

end PlatformAudit
