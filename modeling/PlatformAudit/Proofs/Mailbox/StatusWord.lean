import PlatformAudit.Proofs.Mailbox.FrameReading

/-!
# The status word

The payload of a response starts with its status, and its return words follow.  A message that calls
itself a notification is read in another way: it counts as a success, and its whole payload as
return words.  So what is read is what stands there for every message that is no notification, and
for no other.
-/

namespace PlatformAudit.Frame

open LittleEndian

/-- A buffer reports a status and return words: the status is the first word of its payload, and the
return words are all words behind it. -/
structure Reports (buffer : List UInt8) (status : Int32) (returns : List UInt32) : Prop where
  room : 8 ≤ declaredLength buffer
  status : status = (UInt32.ofNat (numberAt buffer 0x1C)).toInt32
  returns : returns = words ((buffer.drop 0x20).take (declaredLength buffer - 8))

section

variable {buffer : List UInt8}

theorem words_payloadBytes (accepted : Accepts buffer) (room : 8 ≤ declaredLength buffer) :
    words (payloadBytes buffer) =
      UInt32.ofNat (numberAt buffer 0x1C) ::
        words ((buffer.drop 0x20).take (declaredLength buffer - 8)) := by
  have inside := accepted.inside
  have enough : 4 ≤ (payloadBytes buffer).length := by
    rw [payloadBytes, List.length_take, List.length_drop, payloadOffset]
    omega
  have count : declaredLength buffer - 4 - 4 = declaredLength buffer - 8 := by omega
  rw [words_eq_cons enough, payloadBytes, numberAt_take (by omega), numberAt_drop, List.drop_take,
    List.drop_drop, count]
  rfl

variable {response : Response}

theorem responseOf_of_toResponse (read : toResponse buffer = .ok response) :
    Accepts buffer ∧ Header.decode (headerWord buffer) = .ok response.header ∧
      responseOf response.header (words (payloadBytes buffer)) = .ok response := by
  have accepted := ((toResponse_eq_ok_iff buffer).mp ⟨response, read⟩).1
  obtain ⟨header, decoded, message⟩ := read_of_accepts accepted
  rw [toResponse_eq, message] at read
  have made : responseOf header (words (payloadBytes buffer)) = .ok response := read
  have same : response.header = header := by
    unfold responseOf at made
    split at made
    · cases made
      rfl
    · split at made
      · cases made
      · cases made
        rfl
  rw [same]
  exact ⟨accepted, decoded, made⟩

theorem kindNumber_of_toResponse (read : toResponse buffer = .ok response) :
    kindNumber buffer = response.header.kind.code.toNat :=
  kindNumber_of_decode (responseOf_of_toResponse read).2.1

/-- A response that is no notification is what its buffer reports. -/
theorem reports_of_toResponse (read : toResponse buffer = .ok response)
    (kind : response.header.kind ≠ .notification) :
    Reports buffer response.status response.returns := by
  obtain ⟨accepted, -, made⟩ := responseOf_of_toResponse read
  unfold responseOf at made
  rw [if_neg kind] at made
  split at made
  case h_1 => cases made
  case h_2 status returns payload =>
    -- There is a status, so the payload is not empty.
    have length := length_words_payloadBytes accepted
    rw [payload, List.length_cons] at length
    have room : 8 ≤ declaredLength buffer := by omega
    rw [words_payloadBytes accepted room] at payload
    cases payload
    have same := Except.ok.inj made
    exact ⟨room, (congrArg Response.status same).symm, (congrArg Response.returns same).symm⟩

/-- A notification is read as a success, and all words of its payload as return words. -/
theorem toResponse_notification (read : toResponse buffer = .ok response)
    (kind : response.header.kind = .notification) :
    response.Succeeded ∧ response.returns = words (payloadBytes buffer) := by
  obtain ⟨-, -, made⟩ := responseOf_of_toResponse read
  unfold responseOf at made
  rw [if_pos kind] at made
  have same := Except.ok.inj made
  exact ⟨(congrArg Response.status same).symm, (congrArg Response.returns same).symm⟩

/-- What is read is what the buffer reports, unless it is a notification. -/
theorem reports_iff (read : toResponse buffer = .ok response) :
    Reports buffer response.status response.returns ↔ response.header.kind ≠ .notification := by
  refine ⟨?_, reports_of_toResponse read⟩
  intro reports kind
  obtain ⟨accepted, -, -⟩ := responseOf_of_toResponse read
  have inside := accepted.inside
  have room := reports.room
  -- All words are read as return words, so there is one too many of them.
  have all : response.returns.length = (declaredLength buffer - 4) / 4 := by
    rw [(toResponse_notification read kind).2, length_words_payloadBytes accepted]
  have behind : response.returns.length = (declaredLength buffer - 8) / 4 := by
    rw [reports.returns, length_words, List.length_take, List.length_drop]
    omega
  omega

/-- What is read is a success if the first word of the payload is zero, and in a notification. -/
theorem succeeded_iff (read : toResponse buffer = .ok response) :
    response.Succeeded ↔
      response.header.kind = .notification ∨ numberAt buffer 0x1C = 0 := by
  by_cases kind : response.header.kind = .notification
  · exact iff_of_true (toResponse_notification read kind).1 (.inl kind)
  · have small : numberAt buffer 0x1C < 0x100000000 := numberAt_lt buffer 0x1C
    have number : (UInt32.ofNat (numberAt buffer 0x1C)).toNat = numberAt buffer 0x1C :=
      UInt32.toNat_ofNat_of_lt' small
    rw [Response.Succeeded, (reports_of_toResponse read kind).status, or_iff_right kind]
    constructor
    · intro zero
      have unsigned := congrArg Int32.toUInt32 zero
      rw [UInt32.toUInt32_toInt32] at unsigned
      rw [← number, unsigned]
      rfl
    · intro zero
      rw [zero]
      rfl

/-- A buffer of the size of a frame has room for a status and 24 return words. -/
theorem length_returns_le (read : toResponse buffer = .ok response)
    (short : buffer.length ≤ 0x80) (kind : response.header.kind ≠ .notification) :
    response.returns.length ≤ 24 := by
  have inside := (responseOf_of_toResponse read).1.inside
  rw [(reports_of_toResponse read kind).returns, length_words, List.length_take]
  omega

end

end PlatformAudit.Frame
