import PlatformAudit.Mailbox.Frame
import PlatformAudit.Proofs.Message.HeaderCodec
import PlatformAudit.Proofs.Word.LittleEndian

/-!
# Reading any buffer

What the platform writes into a mailbox is bytes of any length and with any contents.  `Accepts`
says which buffers hold a message and `Refusal` why another one does not: the first check that fails
names the error.  A reader that goes through the bytes word by word and stops where they end never
comes behind the end.
-/

namespace PlatformAudit.Frame

open LittleEndian

/-- The length of header and payload, as a buffer declares it. -/
def declaredLength (buffer : List UInt8) : Nat :=
  numberAt buffer lengthOffset

def kindNumber (buffer : List UInt8) : Nat :=
  numberAt buffer headerOffset / 0x100 % 4

/-- The declared length is one of a header and whole words. -/
def LengthInWords (buffer : List UInt8) : Prop :=
  4 ≤ declaredLength buffer ∧ 4 ∣ declaredLength buffer

instance (buffer : List UInt8) : Decidable (LengthInWords buffer) :=
  inferInstanceAs (Decidable (_ ∧ _))

/-- The buffers that hold a message. -/
structure Accepts (buffer : List UInt8) : Prop where
  headed : 0x1C ≤ buffer.length
  inWords : LengthInWords buffer
  inside : 0x18 + declaredLength buffer ≤ buffer.length
  kind : kindNumber buffer ≠ 1

/-- Why a buffer holds no message.  Each reason supposes that those above it do not apply. -/
inductive Refusal (buffer : List UInt8) : FrameError → Prop where
  | short (short : buffer.length < 0x1C) : Refusal buffer (.truncated buffer.length 0x1C)
  | badLength (headed : 0x1C ≤ buffer.length) (bad : ¬LengthInWords buffer) :
      Refusal buffer (.badLength (declaredLength buffer))
  | cut (headed : 0x1C ≤ buffer.length) (inWords : LengthInWords buffer)
      (cut : buffer.length < 0x18 + declaredLength buffer) :
      Refusal buffer (.truncated buffer.length (0x18 + declaredLength buffer))
  | badKind (headed : 0x1C ≤ buffer.length) (inWords : LengthInWords buffer)
      (inside : 0x18 + declaredLength buffer ≤ buffer.length) (bad : kindNumber buffer = 1) :
      Refusal buffer (.header (.invalidKind 1))

def headerWord (buffer : List UInt8) : UInt32 :=
  UInt32.ofNat (numberAt buffer headerOffset)

/-- The bytes of the payload, as many as the buffer declares. -/
def payloadBytes (buffer : List UInt8) : List UInt8 :=
  (buffer.drop payloadOffset).take (declaredLength buffer - 4)

theorem toNat_headerWord (buffer : List UInt8) :
    (headerWord buffer).toNat = numberAt buffer headerOffset :=
  UInt32.toNat_ofNat_of_lt' (numberAt_lt buffer headerOffset)

theorem wordAt?_header (buffer : List UInt8) :
    wordAt? buffer headerOffset =
      if 0x1C ≤ buffer.length then some (headerWord buffer) else none :=
  wordAt?_eq buffer headerOffset

theorem wordAt?_length {buffer : List UInt8} (headed : 0x1C ≤ buffer.length) :
    wordAt? buffer lengthOffset = some (UInt32.ofNat (declaredLength buffer)) := by
  rw [wordAt?_eq, if_pos (by change 0x14 + 4 ≤ _; omega)]
  rfl

/-- The checks behind the first one, in their order. -/
theorem read_of_headed {buffer : List UInt8} (headed : 0x1C ≤ buffer.length) :
    read buffer =
      if LengthInWords buffer then
        if 0x18 + declaredLength buffer ≤ buffer.length then
          match Header.decode (headerWord buffer) with
          | .error cause => .error (.header cause)
          | .ok header => .ok (header, words (payloadBytes buffer))
        else .error (.truncated buffer.length (0x18 + declaredLength buffer))
      else .error (.badLength (declaredLength buffer)) := by
  have header : wordAt? buffer headerOffset = some (headerWord buffer) := by
    rw [wordAt?_header, if_pos headed]
  have length : (UInt32.ofNat (declaredLength buffer)).toNat = declaredLength buffer :=
    UInt32.toNat_ofNat_of_lt' (numberAt_lt buffer lengthOffset)
  simp only [read, wordAt?_length headed, header, length]
  by_cases inWords : LengthInWords buffer
  · obtain ⟨enough, whole⟩ := id inWords
    have good : ¬(declaredLength buffer < 4 ∨ declaredLength buffer % 4 ≠ 0) := by omega
    have count : 4 * ((declaredLength buffer - 4) / 4) = declaredLength buffer - 4 := by omega
    have needed : payloadOffset + (declaredLength buffer - 4) = 0x18 + declaredLength buffer := by
      change 0x1C + _ = _
      omega
    rw [if_pos inWords, if_neg good, count, needed]
    by_cases inside : 0x18 + declaredLength buffer ≤ buffer.length
    · rw [if_pos inside, if_neg (Nat.not_lt.mpr inside)]
      rfl
    · rw [if_neg inside, if_pos (Nat.not_le.mp inside)]
  · have bad : declaredLength buffer < 4 ∨ declaredLength buffer % 4 ≠ 0 := by
      unfold LengthInWords at inWords
      omega
    rw [if_neg inWords, if_pos bad]

theorem read_of_refusal {buffer : List UInt8} {cause : FrameError}
    (refused : Refusal buffer cause) : read buffer = .error cause := by
  cases refused with
  | short short =>
      have noHeader : wordAt? buffer headerOffset = none := by
        rw [wordAt?_header, if_neg (Nat.not_le.mpr short)]
      unfold read
      rw [noHeader]
      cases wordAt? buffer lengthOffset <;> rfl
  | badLength headed bad => rw [read_of_headed headed, if_neg bad]
  | cut headed inWords cut =>
      rw [read_of_headed headed, if_pos inWords, if_neg (Nat.not_le.mpr cut)]
  | badKind headed inWords inside bad =>
      have noKind : Header.decode (headerWord buffer) = .error (.invalidKind 1) := by
        rw [Header.decode_eq_error_iff, toNat_headerWord]
        exact ⟨bad, rfl⟩
      rw [read_of_headed headed, if_pos inWords, if_pos inside, noKind]

theorem kindNumber_of_decode {buffer : List UInt8} {header : Header}
    (decoded : Header.decode (headerWord buffer) = .ok header) :
    kindNumber buffer = header.kind.code.toNat := by
  rw [Header.code_of_decode decoded, toNat_headerWord]
  rfl

theorem kind?_eq_some_iff (buffer : List UInt8) (kind : MessageKind) :
    kind? buffer = some kind ↔ 0x1C ≤ buffer.length ∧ kindNumber buffer = kind.code.toNat := by
  rw [kind?, wordAt?_header]
  by_cases headed : 0x1C ≤ buffer.length
  · rw [if_pos headed]
    cases decoded : Header.decode (headerWord buffer) with
    | error cause =>
        have bad := (Header.decode_eq_error_iff.mp decoded).1
        rw [toNat_headerWord] at bad
        have number : kindNumber buffer = 1 := bad
        simp only [decoded, number, reduceCtorEq, false_iff]
        cases kind <;> exact fun both => absurd both.2 (by decide)
    | ok header =>
        simp only [decoded, kindNumber_of_decode decoded, MessageKind.code_inj, headed, true_and,
          Option.some.injEq]
  · rw [if_neg headed]
    simp [headed]

theorem read_of_accepts {buffer : List UInt8} (accepted : Accepts buffer) :
    ∃ header, Header.decode (headerWord buffer) = .ok header ∧
      read buffer = .ok (header, words (payloadBytes buffer)) := by
  cases decoded : Header.decode (headerWord buffer) with
  | error cause =>
      have bad := (Header.decode_eq_error_iff.mp decoded).1
      rw [toNat_headerWord] at bad
      exact absurd bad accepted.kind
  | ok header =>
      refine ⟨header, rfl, ?_⟩
      rw [read_of_headed accepted.headed, if_pos accepted.inWords, if_pos accepted.inside, decoded]

theorem accepts_or_refusal (buffer : List UInt8) :
    Accepts buffer ∨ ∃ cause, Refusal buffer cause := by
  by_cases headed : 0x1C ≤ buffer.length
  · by_cases inWords : LengthInWords buffer
    · by_cases inside : 0x18 + declaredLength buffer ≤ buffer.length
      · by_cases kind : kindNumber buffer = 1
        · exact .inr ⟨_, .badKind headed inWords inside kind⟩
        · exact .inl ⟨headed, inWords, inside, kind⟩
      · exact .inr ⟨_, .cut headed inWords (Nat.not_le.mp inside)⟩
    · exact .inr ⟨_, .badLength headed inWords⟩
  · exact .inr ⟨_, .short (Nat.not_le.mp headed)⟩

theorem Accepts.not_refusal {buffer : List UInt8} (accepted : Accepts buffer) (cause : FrameError) :
    ¬Refusal buffer cause := by
  intro refused
  obtain ⟨_, _, read⟩ := read_of_accepts accepted
  rw [read_of_refusal refused] at read
  cases read

theorem read_eq_ok_iff (buffer : List UInt8) :
    (∃ header values, read buffer = .ok (header, values)) ↔ Accepts buffer := by
  constructor
  · rintro ⟨header, values, accepted⟩
    rcases accepts_or_refusal buffer with accepts | ⟨cause, refused⟩
    · exact accepts
    · rw [read_of_refusal refused] at accepted
      cases accepted
  · intro accepts
    obtain ⟨header, decoded, accepted⟩ := read_of_accepts accepts
    exact ⟨header, _, accepted⟩

theorem read_eq_error_iff (buffer : List UInt8) (cause : FrameError) :
    read buffer = .error cause ↔ Refusal buffer cause := by
  constructor
  · intro refused
    rcases accepts_or_refusal buffer with accepts | ⟨other, reason⟩
    · obtain ⟨header, decoded, accepted⟩ := read_of_accepts accepts
      rw [accepted] at refused
      cases refused
    · rw [read_of_refusal reason] at refused
      cases refused
      exact reason
  · exact read_of_refusal

theorem length_words_payloadBytes {buffer : List UInt8} (accepted : Accepts buffer) :
    (words (payloadBytes buffer)).length = (declaredLength buffer - 4) / 4 := by
  have inside := accepted.inside
  rw [length_words, payloadBytes, List.length_take, List.length_drop, Nat.min_eq_left]
  change _ ≤ _ - 0x1C
  omega

/-! ### Responses -/

/-- The response in a message that was read.  Only words that were read are looked at. -/
def responseOf (header : Header) (values : List UInt32) : Except FrameError Response :=
  if header.kind = .notification then
    .ok { header, status := Status.success.code, returns := values }
  else
    match values with
    | [] => .error .missingStatus
    | status :: returns => .ok { header, status := status.toInt32, returns }

theorem toResponse_eq (buffer : List UInt8) :
    toResponse buffer = (read buffer).bind fun (header, values) => responseOf header values := by
  unfold toResponse
  cases read buffer <;> rfl

theorem responseOf_eq_error_iff (header : Header) (values : List UInt32) (cause : FrameError) :
    responseOf header values = .error cause ↔
      (values = [] ∧ header.kind ≠ .notification) ∧ cause = .missingStatus := by
  unfold responseOf
  by_cases notification : header.kind = .notification
  · simp [notification]
  · rw [if_neg notification]
    cases values with
    | nil => simp [notification, eq_comm]
    | cons status returns => simp

/-- A buffer holds a message that is no notification and has no word for a status. -/
def LacksStatus (buffer : List UInt8) : Prop :=
  declaredLength buffer = 4 ∧ kindNumber buffer ≠ 3

instance (buffer : List UInt8) : Decidable (LacksStatus buffer) :=
  inferInstanceAs (Decidable (_ ∧ _))

theorem lacksStatus_iff {buffer : List UInt8} {header : Header} (accepted : Accepts buffer)
    (decoded : Header.decode (headerWord buffer) = .ok header) :
    LacksStatus buffer ↔ words (payloadBytes buffer) = [] ∧ header.kind ≠ .notification := by
  have kind : header.kind = .notification ↔ kindNumber buffer = 3 := by
    rw [kindNumber_of_decode decoded]
    exact MessageKind.code_inj.symm
  have empty : words (payloadBytes buffer) = [] ↔ declaredLength buffer = 4 := by
    obtain ⟨enough, whole⟩ := accepted.inWords
    rw [← List.length_eq_zero_iff, length_words_payloadBytes accepted]
    omega
  rw [LacksStatus, empty, Ne, Ne, kind]

theorem toResponse_eq_error_iff (buffer : List UInt8) (cause : FrameError) :
    toResponse buffer = .error cause ↔
      Refusal buffer cause ∨ Accepts buffer ∧ LacksStatus buffer ∧ cause = .missingStatus := by
  rw [toResponse_eq]
  rcases accepts_or_refusal buffer with accepted | ⟨reason, refused⟩
  · obtain ⟨header, decoded, read⟩ := read_of_accepts accepted
    rw [read]
    change responseOf header _ = _ ↔ _
    rw [responseOf_eq_error_iff, ← lacksStatus_iff accepted decoded]
    simp [accepted, accepted.not_refusal]
  · have unaccepted : ¬Accepts buffer := fun accepted => accepted.not_refusal reason refused
    rw [← read_eq_error_iff, read_of_refusal refused]
    simp [unaccepted, Except.bind]

theorem toResponse_eq_ok_iff (buffer : List UInt8) :
    (∃ response, toResponse buffer = .ok response) ↔ Accepts buffer ∧ ¬LacksStatus buffer := by
  cases result : toResponse buffer with
  | error cause =>
      have reason := (toResponse_eq_error_iff buffer cause).mp result
      constructor
      · rintro ⟨response, equality⟩
        cases equality
      · rintro ⟨accepted, status⟩
        rcases reason with refused | ⟨-, lacks, -⟩
        · exact absurd refused (accepted.not_refusal cause)
        · exact absurd lacks status
  | ok response =>
      have noReason (cause : FrameError) := mt (toResponse_eq_error_iff buffer cause).mpr
        (by rw [result]; rintro ⟨⟩)
      refine ⟨fun _ => ?_, fun _ => ⟨response, rfl⟩⟩
      rcases accepts_or_refusal buffer with accepted | ⟨cause, refused⟩
      · exact ⟨accepted, fun lacks => noReason .missingStatus (.inr ⟨accepted, lacks, rfl⟩)⟩
      · exact absurd (.inl refused) (noReason cause)

/-! ### What the result depends on -/

/-- The bytes of a buffer that a message of some length takes up, from the length word on. -/
def extent (buffer : List UInt8) (length : Nat) : List UInt8 :=
  (buffer.drop lengthOffset).take (4 + length)

section Extent

variable {buffer other : List UInt8}

private theorem numberAt_extent (buffer : List UInt8) {length offset : Nat}
    (inside : offset ≤ length) :
    numberAt (extent buffer length) offset = numberAt buffer (lengthOffset + offset) := by
  rw [extent, numberAt_take (by omega), numberAt_drop]

/-- Bytes outside the length word, the header and the payload do not matter. -/
theorem read_eq_of_extent (accepted : Accepts buffer)
    (same : extent other (declaredLength buffer) = extent buffer (declaredLength buffer)) :
    read other = read buffer := by
  obtain ⟨enough, whole⟩ := accepted.inWords
  have inside := accepted.inside
  have length : declaredLength other = declaredLength buffer := by
    have numbers := congrArg (numberAt · 0) same
    simp only [numberAt_extent _ (Nat.zero_le _)] at numbers
    exact numbers
  have header : headerWord other = headerWord buffer := by
    have numbers := congrArg (numberAt · 4) same
    simp only [numberAt_extent _ enough] at numbers
    exact congrArg UInt32.ofNat numbers
  have long : 0x18 + declaredLength buffer ≤ other.length := by
    have lengths := congrArg List.length same
    simp only [extent, List.length_take, List.length_drop, lengthOffset] at lengths
    omega
  have bytes : payloadBytes other = payloadBytes buffer := by
    have tails := congrArg (List.drop 8) same
    simp only [extent, List.drop_take, List.drop_drop] at tails
    have count : 4 + declaredLength buffer - 8 = declaredLength buffer - 4 := by omega
    rw [count] at tails
    rw [payloadBytes, length]
    exact tails
  have inWords : LengthInWords other := by
    rw [LengthInWords, length]
    exact accepted.inWords
  rw [read_of_headed accepted.headed, read_of_headed (by omega), length, header, bytes,
    if_pos inWords, if_pos long, if_pos accepted.inWords, if_pos inside]

end Extent

/-! ### Reading word by word -/

/-- Takes the next word.  Nothing if the bytes end before it does. -/
def nextWord? (bytes : List UInt8) : Option (UInt32 × List UInt8) :=
  (wordAt? bytes 0).map fun value => (value, bytes.drop 4)

def nextWords? : Nat → List UInt8 → Option (List UInt32 × List UInt8)
  | 0, bytes => some ([], bytes)
  | count + 1, bytes => do
      let (value, behind) ← nextWord? bytes
      let (values, rest) ← nextWords? count behind
      return (value :: values, rest)

/-- Goes to a place in the bytes.  Nothing if they end before it. -/
def goTo? (offset : Nat) (bytes : List UInt8) : Option (List UInt8) :=
  if offset ≤ bytes.length then some (bytes.drop offset) else none

/-- Reads a frame with a cursor, which goes to the length word and from there forward word by word.
Nothing at all if a word is taken that is not completely there. -/
def readForward? (buffer : List UInt8) : Option (Except FrameError (Header × List UInt32)) :=
  if buffer.length < payloadOffset then
    return .error (.truncated buffer.length payloadOffset)
  else do
    let atLength ← goTo? lengthOffset buffer
    let (lengthWord, atHeader) ← nextWord? atLength
    let length := lengthWord.toNat
    if length < 4 ∨ length % 4 ≠ 0 then
      return .error (.badLength length)
    else
      let count := (length - 4) / 4
      let needed := payloadOffset + 4 * count
      if buffer.length < needed then
        return .error (.truncated buffer.length needed)
      else do
        let (header, atPayload) ← nextWord? atHeader
        match Header.decode header with
        | .error cause => return .error (.header cause)
        | .ok header =>
            let (values, _) ← nextWords? count atPayload
            return .ok (header, values)

theorem nextWord?_of_enough {bytes : List UInt8} (enough : 4 ≤ bytes.length) :
    nextWord? bytes = some (UInt32.ofNat (numberAt bytes 0), bytes.drop 4) := by
  rw [nextWord?, wordAt?_eq, if_pos (by omega)]
  rfl

theorem nextWords?_of_enough (count : Nat) (bytes : List UInt8)
    (enough : 4 * count ≤ bytes.length) :
    nextWords? count bytes = some (words (bytes.take (4 * count)), bytes.drop (4 * count)) := by
  induction count generalizing bytes with
  | zero => rfl
  | succ count induction =>
      have four : 4 ≤ bytes.length := by omega
      have rest := induction (bytes.drop 4) (by rw [List.length_drop]; omega)
      have taken : 4 ≤ (bytes.take (4 * (count + 1))).length := by
        rw [List.length_take]
        omega
      have offset : 4 + 4 * count = 4 * (count + 1) := by omega
      rw [nextWords?, nextWord?_of_enough four, words_eq_cons taken,
        numberAt_take (by omega), List.drop_take, Nat.mul_succ, Nat.add_sub_cancel]
      simp only [Option.bind_eq_bind, Option.bind_some, rest, List.drop_drop, offset]
      rfl

/-- Reading forward gives the same result as reading at offsets, and it always gives a result: no
word is taken from behind the end. -/
theorem readForward?_eq (buffer : List UInt8) : readForward? buffer = some (read buffer) := by
  by_cases short : buffer.length < payloadOffset
  · rw [read_of_refusal (.short short), readForward?, if_pos short]
    rfl
  · have headed : 0x1C ≤ buffer.length := Nat.not_lt.mp short
    have atLength : goTo? lengthOffset buffer = some (buffer.drop lengthOffset) :=
      if_pos (Nat.le_trans (by decide) headed)
    have lengthWord : nextWord? (buffer.drop lengthOffset) =
        some (UInt32.ofNat (declaredLength buffer), buffer.drop headerOffset) := by
      rw [nextWord?_of_enough (by rw [List.length_drop, lengthOffset]; omega), numberAt_drop,
        List.drop_drop]
      rfl
    have header : nextWord? (buffer.drop headerOffset) =
        some (headerWord buffer, buffer.drop payloadOffset) := by
      rw [nextWord?_of_enough (by rw [List.length_drop, headerOffset]; omega), numberAt_drop,
        List.drop_drop]
      rfl
    simp only [readForward?, read, if_neg short, atLength, lengthWord, wordAt?_length headed,
      wordAt?_header, if_pos headed, header, Option.bind_eq_bind, Option.bind_some]
    -- From here on both readers make the same checks of the same number.
    generalize (UInt32.ofNat (declaredLength buffer)).toNat = length
    by_cases bad : length < 4 ∨ length % 4 ≠ 0
    · rw [if_pos bad, if_pos bad]
      rfl
    by_cases cut : buffer.length < payloadOffset + 4 * ((length - 4) / 4)
    · rw [if_neg bad, if_neg bad, if_pos cut, if_pos cut]
      rfl
    have values := nextWords?_of_enough ((length - 4) / 4) (buffer.drop payloadOffset)
      (by rw [List.length_drop]; omega)
    rw [if_neg bad, if_neg bad, if_neg cut, if_neg cut, values]
    cases Header.decode (headerWord buffer) <;> rfl

/-- Any buffer is read.  It holds a message exactly if it is accepted, and otherwise the first check
that fails names the error.  A message has as many words as its length declares and depends on no
byte outside its extent.  A response needs a status on top of that, unless it is a notification.  No
word is taken from behind the end. -/
theorem reads_any_buffer (buffer : List UInt8) :
    ((∃ header values, toCommand buffer = .ok (header, values)) ↔ Accepts buffer) ∧
    (∀ cause, toCommand buffer = .error cause ↔ Refusal buffer cause) ∧
    (∀ header values, toCommand buffer = .ok (header, values) →
      values.length = (declaredLength buffer - 4) / 4 ∧
      ∀ other, extent other (declaredLength buffer) = extent buffer (declaredLength buffer) →
        toCommand other = .ok (header, values)) ∧
    ((∃ response, toResponse buffer = .ok response) ↔ Accepts buffer ∧ ¬LacksStatus buffer) ∧
    (∀ cause, toResponse buffer = .error cause ↔
      Refusal buffer cause ∨ Accepts buffer ∧ LacksStatus buffer ∧ cause = .missingStatus) ∧
    (∀ response, toResponse buffer = .ok response →
      ∀ other, extent other (declaredLength buffer) = extent buffer (declaredLength buffer) →
        toResponse other = .ok response) ∧
    readForward? buffer = some (toCommand buffer) ∧
    (readForward? buffer).map (·.bind fun (header, values) => responseOf header values) =
      some (toResponse buffer) := by
  refine ⟨read_eq_ok_iff buffer, read_eq_error_iff buffer, ?_, toResponse_eq_ok_iff buffer,
    toResponse_eq_error_iff buffer, ?_, readForward?_eq buffer, ?_⟩
  · intro header values accepted
    have accepts := (read_eq_ok_iff buffer).mp ⟨header, values, accepted⟩
    obtain ⟨_, _, read⟩ := read_of_accepts accepts
    have message := accepted.symm.trans read
    cases message
    exact ⟨length_words_payloadBytes accepts,
      fun other same => (read_eq_of_extent accepts same).trans read⟩
  · intro response accepted other same
    have accepts := ((toResponse_eq_ok_iff buffer).mp ⟨response, accepted⟩).1
    rw [toResponse_eq, read_eq_of_extent accepts same, ← toResponse_eq]
    exact accepted
  · rw [readForward?_eq, toResponse_eq]
    rfl

/-- A bare header that asks for a protocol version, with nothing behind it. -/
def versionRequest : List UInt8 :=
  List.replicate 0x14 0 ++ [4, 0, 0, 0, 0, 0x40, 0, 0]

theorem reads_versionRequest :
    (∃ header, toCommand versionRequest = .ok (header, []) ∧
      toCommand (versionRequest ++ [0xFF]) = .ok (header, [])) ∧
    toResponse versionRequest = .error .missingStatus := by
  have accepts : Accepts versionRequest := ⟨by decide, by decide, by decide, by decide⟩
  obtain ⟨accepted, -, contents, -, failed, -⟩ := reads_any_buffer versionRequest
  obtain ⟨header, values, message⟩ := accepted.mpr accepts
  obtain ⟨count, extended⟩ := contents header values message
  cases List.eq_nil_of_length_eq_zero (count.trans (by decide))
  exact ⟨⟨header, message, extended _ (by decide)⟩,
    (failed .missingStatus).mpr (.inr ⟨accepts, by decide, rfl⟩)⟩

end PlatformAudit.Frame
