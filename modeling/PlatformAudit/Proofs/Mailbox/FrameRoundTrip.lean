import PlatformAudit.Proofs.Mailbox.FrameReading
import PlatformAudit.Proofs.Payload.Packing

/-!
# Frames there and back

A frame is 32 words: seven words in front, the payload, and zeros.  What was framed is read back,
with its header as a word carries it.  A buffer is framed again from what was read, provided that it
is filled in as a command is: nothing depends on the words that a reader skips, so they have to be
those that the writer writes.
-/

namespace PlatformAudit.Frame

open LittleEndian

def front (channelStatus : UInt32) (header : Header) (count : Nat) : List UInt32 :=
  [0, channelStatus, 0, 0, completionInterrupt, lengthFor count, header.encode]

def wordsOf (channelStatus : UInt32) (header : Header) (payload : List UInt32) : List UInt32 :=
  front channelStatus header payload.length ++
    (payload ++ List.replicate (maxPayloadWords - payload.length) 0)

theorem toNat_lengthFor {count : Nat} (fits : count ≤ maxPayloadWords) :
    (lengthFor count).toNat = 4 + 4 * count := by
  have room : count ≤ 25 := fits
  apply UInt32.toNat_ofNat_of_lt'
  change _ < 4294967296
  omega

section Build

variable {channelStatus : UInt32} {header : Header} {payload : List UInt32}

theorem build_eq (fits : payload.length ≤ maxPayloadWords) :
    build channelStatus header payload = bytesOfWords (wordsOf channelStatus header payload) := by
  have room : payload.length ≤ 25 := fits
  have length : (front channelStatus header payload.length ++ payload).length =
      7 + payload.length := by
    rw [List.length_append]
    rfl
  have filled : FixedText.fit (4 * 32)
      (bytesOfWords (front channelStatus header payload.length ++ payload)) = _ :=
    FixedText.fit_bytesOfWords (by omega)
  have zeros : 32 - (7 + payload.length) = maxPayloadWords - payload.length := by
    change _ = 25 - _
    omega
  rw [length, zeros, List.append_assoc] at filled
  exact filled

theorem length_wordsOf (fits : payload.length ≤ maxPayloadWords) :
    (wordsOf channelStatus header payload).length = 32 := by
  have room : payload.length ≤ 25 := fits
  simp only [wordsOf, front, List.length_append, List.length_replicate, List.length_cons,
    List.length_nil, maxPayloadWords]
  omega

theorem length_build (fits : payload.length ≤ maxPayloadWords) :
    (build channelStatus header payload).length = 0x80 := by
  rw [build_eq fits, length_bytesOfWords, length_wordsOf fits]

theorem wordAt?_build (fits : payload.length ≤ maxPayloadWords) (position : Nat) :
    wordAt? (build channelStatus header payload) (4 * position) =
      (wordsOf channelStatus header payload)[position]? := by
  rw [build_eq fits, wordAt?_bytesOfWords]

theorem declaredLength_build (fits : payload.length ≤ maxPayloadWords) :
    declaredLength (build channelStatus header payload) = 4 + 4 * payload.length := by
  have number := numberAt_bytesOfWords (wordsOf channelStatus header payload) 5
  rw [← build_eq fits] at number
  exact number.trans (toNat_lengthFor fits)

theorem headerWord_build (fits : payload.length ≤ maxPayloadWords) :
    headerWord (build channelStatus header payload) = header.encode := by
  have number := numberAt_bytesOfWords (wordsOf channelStatus header payload) 6
  rw [← build_eq fits] at number
  apply UInt32.toNat_inj.mp
  rw [toNat_headerWord]
  exact number

theorem payloadBytes_build (fits : payload.length ≤ maxPayloadWords) :
    payloadBytes (build channelStatus header payload) = bytesOfWords payload := by
  have behind := drop_bytesOfWords (wordsOf channelStatus header payload) 7
  rw [← build_eq fits] at behind
  have count : 4 + 4 * payload.length - 4 = 4 * payload.length := by omega
  rw [payloadBytes, declaredLength_build fits, count]
  refine (congrArg (List.take _) behind).trans ?_
  rw [take_bytesOfWords]
  exact congrArg bytesOfWords List.take_left

theorem read_build (fits : payload.length ≤ maxPayloadWords) :
    read (build channelStatus header payload) = .ok (header.carried, payload) := by
  have room : payload.length ≤ 25 := fits
  have headed : 0x1C ≤ (build channelStatus header payload).length := by
    rw [length_build fits]
    decide
  have inWords : LengthInWords (build channelStatus header payload) := by
    rw [LengthInWords, declaredLength_build fits]
    omega
  have inside : 0x18 + declaredLength (build channelStatus header payload) ≤
      (build channelStatus header payload).length := by
    rw [length_build fits, declaredLength_build fits]
    omega
  rw [read_of_headed headed, if_pos inWords, if_pos inside, headerWord_build fits,
    Header.decode_encode, payloadBytes_build fits, words_bytesOfWords]

end Build

/-! ### What is framed -/

section Framed

variable {channelStatus : UInt32} {header : Header} {response : Response} {bytes : List UInt8}

private theorem buildWithin_eq_ok_iff {limit : Nat} {prologue values : List UInt32} :
    buildWithin limit channelStatus header prologue values = .ok bytes ↔
      values.length ≤ limit ∧ bytes = build channelStatus header (prologue ++ values) := by
  unfold buildWithin
  by_cases long : limit < values.length
  · rw [if_pos long]
    constructor
    · intro framed
      cases framed
    · intro both
      exact absurd both.1 (Nat.not_le.mpr long)
  · rw [if_neg long, Except.ok.injEq]
    exact ⟨fun same => ⟨Nat.not_lt.mp long, same.symm⟩, fun both => both.2.symm⟩

theorem ofCommand_eq_ok_iff {parameters : List UInt32} :
    ofCommand header parameters = .ok bytes ↔
      parameters.length ≤ 25 ∧ bytes = build 0 header parameters :=
  buildWithin_eq_ok_iff

/-- A response is framed behind its status, which takes one word of the payload. -/
theorem ofResponse_eq_ok_iff (kind : response.header.kind ≠ .notification) :
    ofResponse response = .ok bytes ↔
      response.returns.length ≤ 24 ∧
        bytes = build free response.header (response.status.toUInt32 :: response.returns) := by
  rw [ofResponse, if_neg kind]
  exact buildWithin_eq_ok_iff

theorem ofResponse_notification_eq_ok_iff (kind : response.header.kind = .notification) :
    ofResponse response = .ok bytes ↔
      response.returns.length ≤ 25 ∧ bytes = build free response.header response.returns := by
  rw [ofResponse, if_pos kind]
  exact buildWithin_eq_ok_iff

/-- A response that was framed is read back, with its header as a word carries it. -/
theorem toResponse_ofResponse (kind : response.header.kind ≠ .notification)
    (framed : ofResponse response = .ok bytes) :
    toResponse bytes = .ok { response with header := response.header.carried } := by
  obtain ⟨fits, rfl⟩ := (ofResponse_eq_ok_iff kind).mp framed
  have read :
      read (build free response.header (response.status.toUInt32 :: response.returns)) = _ :=
    read_build (Nat.succ_le_succ fits)
  rw [toResponse_eq, read]
  refine (if_neg kind).trans ?_
  rw [Int32.toInt32_toUInt32]

/-- A notification that was framed is read back as a success, whatever its status was. -/
theorem toResponse_ofResponse_notification (kind : response.header.kind = .notification)
    (framed : ofResponse response = .ok bytes) :
    toResponse bytes =
      .ok { response with header := response.header.carried, status := Status.success.code } := by
  obtain ⟨fits, rfl⟩ := (ofResponse_notification_eq_ok_iff kind).mp framed
  have read : read (build free response.header response.returns) = _ := read_build fits
  rw [toResponse_eq, read]
  exact if_pos kind

end Framed

/-! ### Framing again what was read -/

/-- A buffer that is filled in as a command is, apart from its length, header and payload. -/
structure FilledIn (buffer : List UInt8) : Prop where
  size : buffer.length = 0x80
  reserved : numberAt buffer 0x00 = 0
  channelStatus : numberAt buffer 0x04 = 0
  implementation : numberAt buffer 0x08 = 0 ∧ numberAt buffer 0x0C = 0
  flags : numberAt buffer 0x10 = 1
  behind : ∀ byte ∈ buffer.drop (0x18 + declaredLength buffer), byte = 0

section FilledIn

variable {buffer : List UInt8} (filled : FilledIn buffer)

include filled

theorem FilledIn.bytesOfWords_words : bytesOfWords (words buffer) = buffer :=
  LittleEndian.bytesOfWords_words buffer (by rw [filled.size])

theorem FilledIn.length_words : (words buffer).length = 32 := by
  rw [LittleEndian.length_words, filled.size]

theorem FilledIn.take_words :
    (words buffer).take 7 =
      [0, 0, 0, 0, 1, UInt32.ofNat (declaredLength buffer), headerWord buffer] := by
  have numbers (position : Nat) :
      (words buffer).getD position 0 = UInt32.ofNat (numberAt buffer (4 * position)) := by
    have number := numberAt_bytesOfWords (words buffer) position
    rw [filled.bytesOfWords_words] at number
    rw [number, UInt32.ofNat_toNat]
  have seven : (words buffer).take 7 =
      (List.range 7).map fun position => (words buffer).getD position 0 := by
    apply List.ext_getElem
    · simp [filled.length_words]
    · intro position inTake inRange
      have inWords : position < (words buffer).length := by
        rw [List.length_take] at inTake
        omega
      simp [inWords]
  rw [seven]
  simp only [numbers]
  change [UInt32.ofNat (numberAt buffer 0x00), UInt32.ofNat (numberAt buffer 0x04),
    UInt32.ofNat (numberAt buffer 0x08), UInt32.ofNat (numberAt buffer 0x0C),
    UInt32.ofNat (numberAt buffer 0x10), UInt32.ofNat (declaredLength buffer),
    headerWord buffer] = _
  rw [filled.reserved, filled.channelStatus, filled.implementation.1, filled.implementation.2,
    filled.flags]
  rfl

theorem FilledIn.drop_words (accepted : Accepts buffer) :
    (words buffer).drop 7 =
      words (payloadBytes buffer) ++
        List.replicate (25 - (words (payloadBytes buffer)).length) 0 := by
  obtain ⟨enough, whole⟩ := accepted.inWords
  have inside := accepted.inside
  have size := filled.size
  obtain ⟨count, length⟩ : ∃ count, declaredLength buffer = 4 + 4 * count :=
    ⟨(declaredLength buffer - 4) / 4, by omega⟩
  -- All offsets are whole words, so cutting bytes is cutting words.
  have behind : buffer.drop (4 * 7) = bytesOfWords ((words buffer).drop 7) := by
    rw [← drop_bytesOfWords, filled.bytesOfWords_words]
  have payload : words (payloadBytes buffer) = ((words buffer).drop 7).take count := by
    apply bytesOfWords_injective
    rw [← take_bytesOfWords, ← behind, payloadBytes, length, Nat.add_sub_cancel_left]
    refine LittleEndian.bytesOfWords_words _ ?_
    rw [List.length_take, List.length_drop, payloadOffset]
    omega
  have padding : ((words buffer).drop 7).drop count = List.replicate (25 - count) 0 := by
    have zero : ∀ byte ∈ bytesOfWords (((words buffer).drop 7).drop count), byte = 0 := by
      rw [← drop_bytesOfWords, ← behind, List.drop_drop]
      have offset : 4 * 7 + 4 * count = 0x18 + declaredLength buffer := by omega
      rw [offset]
      exact filled.behind
    have zeros := eq_replicate_of_bytes_eq_zero zero
    rw [List.length_drop, List.length_drop, filled.length_words] at zeros
    exact zeros
  have length : (words (payloadBytes buffer)).length = count := by
    rw [length_words_payloadBytes accepted]
    omega
  rw [length, ← padding, payload, List.take_append_drop]

/-- A buffer that is filled in as a command is framed again from what was read. -/
theorem FilledIn.ofCommand_of_toCommand {header : Header} {parameters : List UInt32}
    (read : toCommand buffer = .ok (header, parameters)) :
    ofCommand header parameters = .ok buffer := by
  have accepted := (read_eq_ok_iff buffer).mp ⟨header, parameters, read⟩
  obtain ⟨_, decoded, message⟩ := read_of_accepts accepted
  cases read.symm.trans message
  have count := length_words_payloadBytes accepted
  obtain ⟨enough, whole⟩ := accepted.inWords
  have inside := accepted.inside
  have size := filled.size
  have fits : (words (payloadBytes buffer)).length ≤ 25 := by omega
  have length : lengthFor (words (payloadBytes buffer)).length =
      UInt32.ofNat (declaredLength buffer) :=
    congrArg UInt32.ofNat (by omega)
  have same : words buffer = wordsOf 0 header (words (payloadBytes buffer)) := by
    rw [← List.take_append_drop 7 (words buffer), filled.take_words, filled.drop_words accepted,
      wordsOf, front, length, Header.encode_of_decode decoded]
    rfl
  refine ofCommand_eq_ok_iff.mpr ⟨fits, ?_⟩
  calc
    buffer = bytesOfWords (words buffer) := filled.bytesOfWords_words.symm
    _ = bytesOfWords (wordsOf 0 header (words (payloadBytes buffer))) := congrArg bytesOfWords same
    _ = build 0 header (words (payloadBytes buffer)) := (build_eq fits).symm

end FilledIn

/-! ### The round trip -/

/-- The format there and back.  A command is framed if it has at most 25 words, a response if it has
at most 24 return words, and a notification if it has at most 25; each is read back with its header
as a word carries it.  The other way round, a buffer that is filled in as a command is framed again
from what was read. -/
theorem round_trip :
    (∀ header parameters,
      ((∃ bytes, ofCommand header parameters = .ok bytes) ↔ parameters.length ≤ 25) ∧
      ∀ bytes, ofCommand header parameters = .ok bytes →
        bytes.length = 0x80 ∧ declaredLength bytes = 4 + 4 * parameters.length ∧
        toCommand bytes = .ok (header.carried, parameters)) ∧
    (∀ response : Response, response.header.kind ≠ .notification →
      ((∃ bytes, ofResponse response = .ok bytes) ↔ response.returns.length ≤ 24) ∧
      ∀ bytes, ofResponse response = .ok bytes →
        toResponse bytes = .ok { response with header := response.header.carried }) ∧
    (∀ response : Response, response.header.kind = .notification →
      ((∃ bytes, ofResponse response = .ok bytes) ↔ response.returns.length ≤ 25) ∧
      ∀ bytes, ofResponse response = .ok bytes →
        toResponse bytes = .ok { response with header := response.header.carried, status := 0 }) ∧
    (∀ buffer header parameters, FilledIn buffer → toCommand buffer = .ok (header, parameters) →
      ofCommand header parameters = .ok buffer) := by
  refine ⟨fun header parameters => ⟨?_, ?_⟩, fun response kind => ⟨?_, ?_⟩,
    fun response kind => ⟨?_, ?_⟩,
    fun buffer header parameters filled => filled.ofCommand_of_toCommand⟩
  · simp [ofCommand_eq_ok_iff]
  · intro bytes framed
    obtain ⟨fits, rfl⟩ := ofCommand_eq_ok_iff.mp framed
    exact ⟨length_build fits, declaredLength_build fits, read_build fits⟩
  · simp [ofResponse_eq_ok_iff kind]
  · intro bytes framed
    exact toResponse_ofResponse kind framed
  · simp [ofResponse_notification_eq_ok_iff kind]
  · intro bytes framed
    exact toResponse_ofResponse_notification kind framed

/-- A header whose token and reserved part are too wide for their places. -/
def wideHeader (kind : MessageKind) : Header where
  reserved := 0x12
  token := 0x405
  protocol := 0x11
  kind := kind
  message := 4

/-- A request for the attributes of message 7, as bytes. -/
def attributesRequest : List UInt8 :=
  List.replicate 0x10 0 ++ [1, 0, 0, 0, 8, 0, 0, 0, 2, 0x40, 0, 0, 7, 0, 0, 0] ++
    List.replicate 0x60 0

theorem attributesRequest_filledIn : FilledIn attributesRequest where
  size := rfl
  reserved := rfl
  channelStatus := rfl
  implementation := ⟨rfl, rfl⟩
  flags := rfl
  behind byte member := by
    have zeros : attributesRequest.drop (0x18 + declaredLength attributesRequest) =
        List.replicate 0x60 0 := rfl
    rw [zeros] at member
    exact List.eq_of_mem_replicate member

theorem round_trip_wide :
    (∃ bytes, ofCommand (wideHeader .command) [7] = .ok bytes ∧
      toCommand bytes = .ok ({ wideHeader .command with reserved := 2, token := 5 }, [7])) ∧
    (∃ bytes, ofResponse ⟨wideHeader .delayedResponse, -4, [7]⟩ = .ok bytes ∧
      toResponse bytes =
        .ok ⟨{ wideHeader .delayedResponse with reserved := 2, token := 5 }, -4, [7]⟩) ∧
    (∃ bytes, ofResponse ⟨wideHeader .notification, -4, [7]⟩ = .ok bytes ∧
      toResponse bytes =
        .ok ⟨{ wideHeader .notification with reserved := 2, token := 5 }, 0, [7]⟩) ∧
    ofCommand (.command 0x10 2) [7] = .ok attributesRequest := by
  obtain ⟨commands, responses, notifications, buffers⟩ := round_trip
  refine ⟨?_, ?_, ?_, ?_⟩
  · obtain ⟨framed, read⟩ := commands (wideHeader .command) [7]
    obtain ⟨bytes, same⟩ := framed.mpr (by decide)
    exact ⟨bytes, same, (read bytes same).2.2⟩
  · obtain ⟨framed, read⟩ := responses ⟨wideHeader .delayedResponse, -4, [7]⟩ (by decide)
    obtain ⟨bytes, same⟩ := framed.mpr (by decide)
    exact ⟨bytes, same, read bytes same⟩
  · obtain ⟨framed, read⟩ := notifications ⟨wideHeader .notification, -4, [7]⟩ rfl
    obtain ⟨bytes, same⟩ := framed.mpr (by decide)
    exact ⟨bytes, same, read bytes same⟩
  · exact buffers attributesRequest _ _ attributesRequest_filledIn (by cbv)

end PlatformAudit.Frame
