import PlatformAudit.Message.Header
import PlatformAudit.Proofs.Word.BitRange

/-!
# Headers in words

The five parts of a header word do not overlap and leave no bit over.  So a header is read back from
its word as far as its token and its reserved part fit into their places, and a word is made again
from the header that was read from it.
-/

namespace PlatformAudit

namespace MessageKind

theorem ofCode?_code (kind : MessageKind) : ofCode? kind.code = some kind := by
  cases kind <;> rfl

theorem code_of_ofCode? {code : UInt32} {kind : MessageKind} (known : ofCode? code = some kind) :
    kind.code = code := by
  unfold ofCode? at known
  split at known
  · cases known
    exact Eq.symm ‹code = 0›
  · split at known
    · cases known
      exact Eq.symm ‹code = 2›
    · split at known
      · cases known
        exact Eq.symm ‹code = 3›
      · cases known

/-- Of the four numbers that fit into two bits only one is not the number of a kind. -/
theorem ofCode?_eq_none_iff {code : UInt32} (small : code.toNat < 4) :
    ofCode? code = none ↔ code.toNat = 1 := by
  have numbers : code = 0 ∨ code = 1 ∨ code = 2 ∨ code = 3 := by
    simp only [← UInt32.toNat_inj, UInt32.toNat_ofNat]
    omega
  rcases numbers with rfl | rfl | rfl | rfl <;> decide

theorem code_inj {kind other : MessageKind} :
    kind.code.toNat = other.code.toNat ↔ kind = other := by
  cases kind <;> cases other <;> decide

end MessageKind

namespace Late

theorem kind_ne_command (late : Late) : late.kind ≠ .command := by
  cases late <;> decide

theorem kind_inj {late other : Late} : late.kind = other.kind ↔ late = other := by
  cases late <;> cases other <;> decide

theorem kind_eq_of_ne {first second : Late} {kind : MessageKind} (different : first ≠ second)
    (noCommand : kind ≠ .command) (other : kind ≠ first.kind) : kind = second.kind := by
  revert different noCommand other
  cases kind <;> cases first <;> cases second <;> decide

end Late

namespace Header

/-- The header as a word carries it: the token and the reserved part are cut to their places. -/
def carried (header : Header) : Header :=
  { header with reserved := header.reserved % 16, token := header.token % 1024 }

/-- The token and the reserved part fit into their places. -/
def Fits (header : Header) : Prop :=
  header.token ≤ maxToken ∧ header.reserved ≤ 0xF

instance (header : Header) : Decidable header.Fits :=
  inferInstanceAs (Decidable (_ ∧ _))

@[simp] theorem carried_kind (header : Header) : header.carried.kind = header.kind :=
  rfl

theorem carried_of_fits {header : Header} (fits : header.Fits) : header.carried = header := by
  obtain ⟨token, reserved⟩ := fits
  have smallToken : header.token.toNat ≤ 1023 := UInt16.le_iff_toNat_le.mp token
  have smallReserved : header.reserved.toNat ≤ 15 := UInt8.le_iff_toNat_le.mp reserved
  have sameToken : header.token % 1024 = header.token := by
    apply UInt16.toNat_inj.mp
    rw [UInt16.toNat_mod]
    exact Nat.mod_eq_of_lt (Nat.lt_of_le_of_lt smallToken (by decide))
  have sameReserved : header.reserved % 16 = header.reserved := by
    apply UInt8.toNat_inj.mp
    rw [UInt8.toNat_mod]
    exact Nat.mod_eq_of_lt (Nat.lt_of_le_of_lt smallReserved (by decide))
  unfold carried
  rw [sameToken, sameReserved]

theorem carried_fits (header : Header) : header.carried.Fits := by
  constructor
  · rw [UInt16.le_iff_toNat_le]
    exact Nat.le_of_lt_succ (Nat.mod_lt _ (by decide))
  · rw [UInt8.le_iff_toNat_le]
    exact Nat.le_of_lt_succ (Nat.mod_lt _ (by decide))

section Codec

open BitRange

variable (header : Header)

private theorem toNat_read_message :
    (messageRange.read header.encode).toNat = header.message.toNat := by
  simp only [encode]
  rw [toNat_read_overwrite]
  exact Nat.mod_eq_of_lt header.message.toNat_lt

private theorem read_kind : kindRange.read header.encode = header.kind.code := by
  simp only [encode]
  rw [read_overwrite_of_apart (by decide), read_overwrite_of_fits]
  cases header.kind <;> decide

private theorem toNat_read_protocol :
    (protocolRange.read header.encode).toNat = header.protocol.toNat := by
  simp only [encode]
  rw [read_overwrite_of_apart (by decide), read_overwrite_of_apart (by decide),
    toNat_read_overwrite]
  exact Nat.mod_eq_of_lt header.protocol.toNat_lt

private theorem toNat_read_token :
    (tokenRange.read header.encode).toNat = header.token.toNat % 1024 := by
  simp only [encode]
  rw [read_overwrite_of_apart (by decide), read_overwrite_of_apart (by decide),
    read_overwrite_of_apart (by decide), toNat_read_overwrite]
  rfl

private theorem toNat_read_reserved :
    (reservedRange.read header.encode).toNat = header.reserved.toNat % 16 := by
  simp only [encode]
  rw [read_overwrite_of_apart (by decide), read_overwrite_of_apart (by decide),
    read_overwrite_of_apart (by decide), read_overwrite_of_apart (by decide),
    toNat_read_overwrite]
  rfl

theorem decode_encode : decode header.encode = .ok header.carried := by
  have reserved : (reservedRange.read header.encode).toUInt8 = header.reserved % 16 := by
    apply UInt8.toNat_inj.mp
    rw [UInt32.toNat_toUInt8, toNat_read_reserved, UInt8.toNat_mod]
    exact Nat.mod_eq_of_lt (Nat.lt_trans (Nat.mod_lt _ (by decide)) (by decide))
  have token : (tokenRange.read header.encode).toUInt16 = header.token % 1024 := by
    apply UInt16.toNat_inj.mp
    rw [UInt32.toNat_toUInt16, toNat_read_token, UInt16.toNat_mod]
    exact Nat.mod_eq_of_lt (Nat.lt_trans (Nat.mod_lt _ (by decide)) (by decide))
  have protocol : (protocolRange.read header.encode).toUInt8 = header.protocol := by
    apply UInt8.toNat_inj.mp
    rw [UInt32.toNat_toUInt8, toNat_read_protocol]
    exact Nat.mod_eq_of_lt header.protocol.toNat_lt
  have message : (messageRange.read header.encode).toUInt8 = header.message := by
    apply UInt8.toNat_inj.mp
    rw [UInt32.toNat_toUInt8, toNat_read_message]
    exact Nat.mod_eq_of_lt header.message.toNat_lt
  simp only [decode, read_kind, MessageKind.ofCode?_code, reserved, token, protocol, message]
  rfl

private theorem toUInt8_read {range : BitRange} (narrow : range.width ≤ 8) (word : UInt32) :
    (range.read word).toUInt8.toUInt32 = range.read word := by
  apply UInt32.toNat_inj.mp
  rw [UInt8.toNat_toUInt32, UInt32.toNat_toUInt8, toNat_read, Nat.one_shiftLeft range.width]
  have bound : 2 ^ range.width ≤ 2 ^ 8 := Nat.pow_le_pow_right (by decide) narrow
  exact Nat.mod_eq_of_lt (Nat.lt_of_lt_of_le (Nat.mod_lt _ (Nat.two_pow_pos _)) bound)

private theorem toUInt16_read {range : BitRange} (narrow : range.width ≤ 16) (word : UInt32) :
    (range.read word).toUInt16.toUInt32 = range.read word := by
  apply UInt32.toNat_inj.mp
  rw [UInt16.toNat_toUInt32, UInt32.toNat_toUInt16, toNat_read, Nat.one_shiftLeft range.width]
  have bound : 2 ^ range.width ≤ 2 ^ 16 := Nat.pow_le_pow_right (by decide) narrow
  exact Nat.mod_eq_of_lt (Nat.lt_of_lt_of_le (Nat.mod_lt _ (Nat.two_pow_pos _)) bound)

theorem encode_of_decode {word : UInt32} {header : Header} (decoded : decode word = .ok header) :
    header.encode = word := by
  dsimp only [decode] at decoded
  split at decoded
  case h_1 => cases decoded
  case h_2 kind known =>
    cases decoded
    have code := MessageKind.code_of_ofCode? known
    have reserved : (reservedRange.read word).toUInt8.toUInt32 = reservedRange.read word :=
      toUInt8_read (by decide) word
    have token : (tokenRange.read word).toUInt16.toUInt32 = tokenRange.read word :=
      toUInt16_read (by decide) word
    have protocol : (protocolRange.read word).toUInt8.toUInt32 = protocolRange.read word :=
      toUInt8_read (by decide) word
    have message : (messageRange.read word).toUInt8.toUInt32 = messageRange.read word :=
      toUInt8_read (by decide) word
    simp only [encode, code, reserved, token, protocol, message]
    -- Each part puts its own bits back, and every bit belongs to a part.
    apply eq_of_bits
    intro index small
    simp only [getLsbD_overwrite_read _ _ _ small, messageRange, kindRange, protocolRange,
      tokenRange, reservedRange]
    repeat' split
    all_goals first | rfl | omega

/-- The headers that fit are the headers that are read, each from one word. -/
theorem decode_eq_ok_iff {word : UInt32} {header : Header} :
    decode word = .ok header ↔ header.Fits ∧ header.encode = word := by
  constructor
  · intro decoded
    have written := encode_of_decode decoded
    rw [← written, decode_encode] at decoded
    have same : header.carried = header := Except.ok.inj decoded
    exact ⟨same ▸ header.carried_fits, written⟩
  · rintro ⟨fits, rfl⟩
    rw [decode_encode, carried_of_fits fits]

/-- As a number, a header word is the sum of its parts, each at its own place. -/
theorem toNat_encode :
    header.encode.toNat =
      header.message.toNat + 0x100 * header.kind.code.toNat + 0x400 * header.protocol.toNat +
        0x40000 * (header.token.toNat % 1024) + 0x10000000 * (header.reserved.toNat % 16) := by
  have below : header.encode.toNat < 0x100000000 := header.encode.toNat_lt
  have message : header.encode.toNat / 1 % 0x100 = header.message.toNat :=
    (toNat_read messageRange _).symm.trans (toNat_read_message header)
  have kind : header.encode.toNat / 0x100 % 4 = header.kind.code.toNat :=
    (toNat_read kindRange _).symm.trans (congrArg UInt32.toNat (read_kind header))
  have protocol : header.encode.toNat / 0x400 % 0x100 = header.protocol.toNat :=
    (toNat_read protocolRange _).symm.trans (toNat_read_protocol header)
  have token : header.encode.toNat / 0x40000 % 1024 = header.token.toNat % 1024 :=
    (toNat_read tokenRange _).symm.trans (toNat_read_token header)
  have reserved : header.encode.toNat / 0x10000000 % 16 = header.reserved.toNat % 16 :=
    (toNat_read reservedRange _).symm.trans (toNat_read_reserved header)
  omega

theorem code_of_decode {word : UInt32} {header : Header} (decoded : decode word = .ok header) :
    header.kind.code.toNat = word.toNat / 0x100 % 4 := by
  dsimp only [decode] at decoded
  split at decoded
  case h_1 => cases decoded
  case h_2 kind known =>
    cases decoded
    rw [MessageKind.code_of_ofCode? known, toNat_read]
    rfl

/-- A word holds a header unless its kind is the one number that has no meaning. -/
theorem decode_eq_error_iff {word : UInt32} {cause : HeaderError} :
    decode word = .error cause ↔ word.toNat / 0x100 % 4 = 1 ∧ cause = .invalidKind 1 := by
  have code : (kindRange.read word).toNat = word.toNat / 0x100 % 4 := toNat_read kindRange word
  have small : (kindRange.read word).toNat < 4 := by omega
  have unknown := MessageKind.ofCode?_eq_none_iff small
  dsimp only [decode]
  split
  case h_1 none =>
    have one : (kindRange.read word).toNat = 1 := unknown.mp none
    have same : kindRange.read word = 1 := UInt32.toNat_inj.mp one
    rw [same, ← code, Except.error.injEq]
    exact ⟨fun equal => ⟨one, equal.symm⟩, fun both => both.2.symm⟩
  case h_2 kind some =>
    constructor
    · intro failed
      cases failed
    · intro both
      rw [unknown.mpr (code.trans both.1)] at some
      cases some

/-- A token is cut to its place before it is written or when it is written. -/
theorem encodeFields_eq (protocol : UInt8) (kind : MessageKind) (message : UInt8)
    (token : UInt16) :
    encodeFields protocol kind message token = encode { token, protocol, kind, message } := by
  have cut : (token &&& maxToken).toNat % 1024 = token.toNat % 1024 := by
    have lowest : (token &&& maxToken).toNat = token.toNat % 1024 :=
      (UInt16.toNat_and ..).trans (Nat.and_two_pow_sub_one_eq_mod token.toNat 10)
    rw [lowest, Nat.mod_mod]
  apply UInt32.toNat_inj.mp
  rw [encodeFields, toNat_encode, toNat_encode, cut]

/-- Headers and words correspond.  The words whose kind is the number 1 hold no header; every other
word holds a header and is made again from it.  A header is read back with its token and its
reserved part cut to their places, so exactly the headers that fit are read back as they are.  Each
part has its own place in the word, and a word may also be made from the parts one by one. -/
theorem codec_bijective :
    (∀ word cause,
      decode word = .error cause ↔ word.toNat / 0x100 % 4 = 1 ∧ cause = .invalidKind 1) ∧
    (∀ word : UInt32, word.toNat / 0x100 % 4 ≠ 1 →
      ∃ header, decode word = .ok header ∧ header.encode = word) ∧
    (∀ header : Header, decode header.encode =
      .ok { header with reserved := header.reserved % 16, token := header.token % 1024 }) ∧
    (∀ header : Header, decode header.encode = .ok header ↔ header.Fits) ∧
    (∀ header : Header, header.encode.toNat =
      header.message.toNat + 0x100 * header.kind.code.toNat + 0x400 * header.protocol.toNat +
        0x40000 * (header.token.toNat % 1024) + 0x10000000 * (header.reserved.toNat % 16)) ∧
    (∀ protocol kind message token,
      encodeFields protocol kind message token =
        encode { reserved := 0, token, protocol, kind, message }) := by
  refine ⟨fun word cause => decode_eq_error_iff, ?_, decode_encode, ?_, toNat_encode,
    encodeFields_eq⟩
  · intro word known
    cases decoded : decode word with
    | ok header => exact ⟨header, rfl, encode_of_decode decoded⟩
    | error cause => exact absurd (decode_eq_error_iff.mp decoded).1 known
  · intro header
    rw [decode_eq_ok_iff, and_iff_left rfl]

/-- A word with bits in all its parts, and a header with a bit too many in two of them. -/
theorem codec_bijective_wide :
    (0xDFFC4604 : UInt32).toNat / 0x100 % 4 ≠ 1 ∧
      (∃ header, decode 0xDFFC4604 = .ok header ∧ header.encode = 0xDFFC4604) ∧
      decode (encode ⟨0x1D, 0x7FF, 0x11, .delayedResponse, 4⟩) =
        .ok ⟨0xD, 0x3FF, 0x11, .delayedResponse, 4⟩ := by
  have known : (0xDFFC4604 : UInt32).toNat / 0x100 % 4 ≠ 1 := by decide
  exact ⟨known, codec_bijective.2.1 _ known, codec_bijective.2.2.1 _⟩

end Codec

end Header

end PlatformAudit
