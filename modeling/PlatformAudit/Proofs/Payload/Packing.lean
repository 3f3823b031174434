import PlatformAudit.Payload.Field
import PlatformAudit.Payload.ProtocolList
import PlatformAudit.Proofs.Text.Utf8
import PlatformAudit.Proofs.Word.LittleEndian

/-!
# Packing there and back

What was packed into words is unpacked from them: lists of protocols and names of fixed width.
-/

namespace PlatformAudit

theorem toNat_ofNat_of_short {count : Nat} (short : count ≤ 65535) :
    (UInt32.ofNat count).toNat = count := by
  apply UInt32.toNat_ofNat_of_lt'
  change count < 4294967296
  omega

namespace ProtocolList

theorem length_pack (identifiers : List UInt8) :
    (pack identifiers).length = (identifiers.length + 3) / 4 :=
  LittleEndian.length_paddedWords identifiers

/-- What is unpacked are the identifiers and the zeros that the last word was filled up with. -/
theorem unpack_pack_eq (identifiers : List UInt8) (count : Nat) :
    unpack (pack identifiers) count =
      (identifiers ++
        List.replicate (4 * ((identifiers.length + 3) / 4) - identifiers.length) 0).take count := by
  rw [unpack, pack, LittleEndian.bytesOfWords_paddedWords]

/-- As many protocols as were packed are unpacked. -/
theorem unpack_pack (identifiers : List UInt8) :
    unpack (pack identifiers) identifiers.length = identifiers := by
  rw [unpack_pack_eq, List.take_left]

/-- All that is in the words is packed into the same words again. -/
theorem pack_unpack (words : List UInt32) : pack (unpack words (4 * words.length)) = words := by
  have all := Nat.le_of_eq (LittleEndian.length_bytesOfWords words)
  rw [pack, unpack, List.take_of_length_le all, LittleEndian.paddedWords_bytesOfWords]

/-- A packed word is the number of the identifiers at its place, the first one lowest. -/
theorem toNat_pack (identifiers : List UInt8) (position : Nat) :
    ((pack identifiers).getD position 0).toNat =
      LittleEndian.numberAt identifiers (4 * position) := by
  rw [← LittleEndian.numberAt_bytesOfWords, pack, LittleEndian.bytesOfWords_paddedWords,
    LittleEndian.numberAt_append_zeros]

theorem take_append_zeros (identifiers : List UInt8) (padding count : Nat) :
    (identifiers ++ List.replicate padding 0).take count =
      (List.range (min count (identifiers.length + padding))).map (identifiers.getD · 0) := by
  apply List.ext_getElem
  · simp
  · intro index inside _
    have within : index < (identifiers ++ List.replicate padding 0).length := by
      rw [List.length_take] at inside
      omega
    rw [List.getElem_take, List.getElem_map, List.getElem_range,
      ← LittleEndian.getD_append_replicate identifiers padding, List.getD_eq_getElem?_getD,
      List.getElem?_eq_getElem within, Option.getD_some]

/-- Identifiers are packed into as few words as hold them, with zeros in the bytes that are left
over.  From these words the identifiers are unpacked, followed by these zeros if more are asked for;
and words that are unpacked as a whole are packed again. -/
theorem packs_losslessly (identifiers : List UInt8) :
    (pack identifiers).length = (identifiers.length + 3) / 4 ∧
      (∀ position, ((pack identifiers).getD position 0).toNat =
        LittleEndian.numberAt identifiers (4 * position)) ∧
      (∀ count, unpack (pack identifiers) count =
        (List.range (min count (4 * ((identifiers.length + 3) / 4)))).map
          (identifiers.getD · 0)) ∧
      unpack (pack identifiers) identifiers.length = identifiers ∧
      ∀ words, pack (unpack words (4 * words.length)) = words := by
  refine ⟨length_pack identifiers, toNat_pack identifiers, ?_, unpack_pack identifiers,
    pack_unpack⟩
  intro count
  have filled : identifiers.length + (4 * ((identifiers.length + 3) / 4) - identifiers.length) =
      4 * ((identifiers.length + 3) / 4) := by omega
  rw [unpack_pack_eq, take_append_zeros, filled]

end ProtocolList

namespace FixedText

theorem length_fit (length : Nat) (bytes : List UInt8) : (fit length bytes).length = length := by
  simp only [fit, List.length_append, List.length_take, List.length_replicate]
  omega

theorem fit_bytesOfWords {values : List UInt32} {count : Nat} (room : values.length ≤ count) :
    fit (4 * count) (LittleEndian.bytesOfWords values) =
      LittleEndian.bytesOfWords (values ++ List.replicate (count - values.length) 0) := by
  have inside : (LittleEndian.bytesOfWords values).length ≤ 4 * count := by
    rw [LittleEndian.length_bytesOfWords]
    omega
  rw [fit, List.take_of_length_le inside, LittleEndian.bytesOfWords_append,
    LittleEndian.bytesOfWords_replicate_zero, LittleEndian.length_bytesOfWords, Nat.mul_sub]

theorem length_encode (text : String) (width : Nat) : (encode text width).length = width := by
  rw [encode, LittleEndian.length_words, length_fit]
  omega

def Fits (text : String) (width : Nat) : Prop :=
  (Utf8.encode text).length ≤ 4 * width ∧ '\x00' ∉ text.toList

instance (text : String) (width : Nat) : Decidable (Fits text width) :=
  inferInstanceAs (Decidable (_ ∧ _))

/-- What is read is what there is in front of the first zero byte, as far as it was not cut off. -/
theorem decode_encode_eq (text : String) (width : Nat) :
    decode (encode text width) =
      Utf8.decode (((Utf8.encode text).take (4 * width)).takeWhile (· ≠ 0)) := by
  have whole : (fit (4 * width) (Utf8.encode text)).length % 4 = 0 := by
    rw [length_fit]
    omega
  have padding (front : List UInt8) (count : Nat) :
      (front ++ List.replicate count 0).takeWhile (· ≠ 0) = front.takeWhile (· ≠ 0) := by
    induction front with
    | nil => cases count <;> simp [List.replicate_succ]
    | cons byte rest induction =>
        rw [List.cons_append, List.takeWhile_cons, List.takeWhile_cons, induction]
  rw [decode, encode, LittleEndian.bytesOfWords_words _ whole, fit, padding]

/-- A text without zero characters is read up to where it was cut off. -/
theorem takeWhile_encode {text : String} (noZero : '\x00' ∉ text.toList) (limit : Nat) :
    ((Utf8.encode text).take limit).takeWhile (· ≠ 0) = (Utf8.encode text).take limit := by
  have kept : ∀ byte ∈ (Utf8.encode text).take limit, decide (byte ≠ 0) = true := by
    intro byte member
    have notZero : byte ≠ 0 := by
      rintro rfl
      exact Utf8.zero_not_mem_encode noZero (List.mem_of_mem_take member)
    simpa using notZero
  rw [← List.append_nil ((Utf8.encode text).take limit), List.takeWhile_append_of_pos kept,
    List.takeWhile_nil]

theorem decode_encode {text : String} {width : Nat} (fits : Fits text width) :
    decode (encode text width) = text := by
  rw [decode_encode_eq, takeWhile_encode fits.2, List.take_of_length_le fits.1, Utf8.decode_encode]

end FixedText

theorem Field.readText?_encode {text : String} {width : Nat} (fits : FixedText.Fits text width)
    (name : String) (before : List UInt32) :
    (Field.text name before.length width).readText? (before ++ FixedText.encode text width) =
      some text := by
  have inside : before.length + width ≤ (before ++ FixedText.encode text width).length := by
    simp [FixedText.length_encode]
  have words : ((before ++ FixedText.encode text width).drop before.length).take width =
      FixedText.encode text width := by
    rw [List.drop_left, List.take_of_length_le (Nat.le_of_eq (FixedText.length_encode text width))]
  have read : (Field.text name before.length width).readText?
      (before ++ FixedText.encode text width) =
        some (FixedText.decode
          (((before ++ FixedText.encode text width).drop before.length).take width)) :=
    if_pos inside
  rw [read, words, FixedText.decode_encode fits]

end PlatformAudit
