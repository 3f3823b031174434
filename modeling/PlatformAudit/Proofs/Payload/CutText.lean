import PlatformAudit.Proofs.Payload.Packing

/-!
# Text that is cut off

A text that is too long for its words is cut off at a byte and not at a character.  What is read
back are the characters that have been left whole; if the cut goes through a character, a
replacement character tells of it.
-/

namespace PlatformAudit.FixedText

/-- The longest beginning of a text that has at most so many bytes. -/
structure IsLongestBeginning (text : String) (limit : Nat) (kept : String) : Prop where
  begins : kept.toList <+: text.toList
  fits : kept.utf8ByteSize ≤ limit
  longest : ∀ other : String, other.toList <+: text.toList → other.utf8ByteSize ≤ limit →
    other.toList <+: kept.toList

variable {text kept : String} {limit : Nat}

theorem isLongestBeginning_of_next {behind : List Char}
    (split : text.toList = kept.toList ++ behind)
    (fits : kept.utf8ByteSize ≤ limit)
    (next : ∀ character ∈ behind.head?,
      limit < kept.utf8ByteSize + (String.utf8EncodeChar character).length) :
    IsLongestBeginning text limit kept where
  begins := ⟨behind, split.symm⟩
  fits := fits
  longest := by
    intro other begins short
    -- Two beginnings of one text are comparable; the one that goes beyond has the next character.
    rcases List.prefix_or_prefix_of_prefix begins ⟨behind, split.symm⟩ with within | ⟨more, beyond⟩
    · exact within
    · cases more with
      | nil => exact ⟨[], by simpa using beyond.symm⟩
      | cons character rest =>
          have first : character ∈ behind.head? := by
            obtain ⟨last, whole⟩ := begins
            rw [split, ← beyond, List.append_assoc, List.append_cancel_left_eq] at whole
            rw [← whole]
            rfl
          have large : other.utf8ByteSize =
              kept.utf8ByteSize + ((String.utf8EncodeChar character).length +
                (rest.flatMap String.utf8EncodeChar).length) := by
            rw [← Utf8.length_encode, ← Utf8.length_encode, Utf8.encode, Utf8.encode, ← beyond,
              List.flatMap_append, List.flatMap_cons, List.length_append, List.length_append]
          have tooLong := next character first
          omega

theorem IsLongestBeginning.unique {other : String} (longest : IsLongestBeginning text limit kept)
    (also : IsLongestBeginning text limit other) : kept = other := by
  apply String.toList_injective
  exact (also.longest kept longest.begins longest.fits).eq_of_length_le
    (longest.longest other also.begins also.fits).length_le

/-- The longest beginning ends exactly at the limit if there is a character boundary. -/
theorem isValid_iff_of_longest (longest : IsLongestBeginning text limit kept) :
    String.Pos.Raw.IsValid text ⟨limit⟩ ↔ kept.utf8ByteSize = limit := by
  rw [String.Pos.Raw.isValid_iff_exists_append]
  constructor
  · rintro ⟨front, back, rfl, place⟩
    have size : front.utf8ByteSize = limit := by
      rw [← String.byteIdx_rawEndPos, ← place]
    obtain ⟨more, inside⟩ := longest.longest front ⟨back.toList, by simp⟩ (Nat.le_of_eq size)
    have grows : kept = front ++ String.ofList more := by
      apply String.toList_injective
      simp [← inside]
    have fits := longest.fits
    rw [grows, String.utf8ByteSize_append] at fits ⊢
    omega
  · intro size
    obtain ⟨more, split⟩ := longest.begins
    refine ⟨kept, String.ofList more, ?_, ?_⟩
    · apply String.toList_injective
      simp [← split]
    · exact String.Pos.Raw.ext (by rw [String.byteIdx_rawEndPos, size])

/-- What is read back of a text without zero characters that is too long. -/
theorem exists_decode_encode_cut {width : Nat} (noZero : '\x00' ∉ text.toList)
    (tooLong : 4 * width < text.utf8ByteSize) :
    ∃ kept, IsLongestBeginning text (4 * width) kept ∧
      decode (encode text width) =
        kept ++ if String.Pos.Raw.IsValid text ⟨4 * width⟩ then "" else "\uFFFD" := by
  obtain ⟨kept, behind, split, fits, next, decoded⟩ := Utf8.decodeFrom_take text.toList (4 * width)
  rw [Utf8.length_flatMap_encodeChar] at fits next decoded
  have more : behind ≠ [] := by
    rintro rfl
    rw [List.append_nil] at split
    rw [← split, String.ofList_toList] at fits
    omega
  have longest : IsLongestBeginning text (4 * width) (String.ofList kept) :=
    isLongestBeginning_of_next (by rw [split, String.toList_ofList]) fits next
  refine ⟨String.ofList kept, longest, ?_⟩
  rw [decode_encode_eq, takeWhile_encode noZero, Utf8.decode, Utf8.encode, decoded,
    String.ofList_append]
  simp only [more, false_or, isValid_iff_of_longest longest]
  split <;> rfl

theorem takeWhile_take_zero (front behind : List UInt8) (limit : Nat) :
    ((front ++ 0 :: behind).take limit).takeWhile (· ≠ 0) =
      (front.take limit).takeWhile (· ≠ 0) := by
  induction front generalizing limit with
  | nil => cases limit <;> simp
  | cons byte rest induction =>
      cases limit with
      | zero => simp
      | succ limit =>
          rw [List.cons_append, List.take_succ_cons, List.take_succ_cons, List.takeWhile_cons,
            List.takeWhile_cons, induction]

/-- What stands behind a zero character is not read back. -/
theorem decode_encode_zero (front behind : String) (width : Nat) :
    decode (encode (front ++ "\x00" ++ behind) width) = decode (encode front width) := by
  have bytes : Utf8.encode (front ++ "\x00" ++ behind) =
      Utf8.encode front ++ 0 :: Utf8.encode behind := by
    have zero : "\x00".toList.flatMap String.utf8EncodeChar = [0] := by decide
    rw [Utf8.encode, String.toList_append, String.toList_append, List.flatMap_append,
      List.flatMap_append, zero, List.append_assoc]
    rfl
  rw [decode_encode_eq, decode_encode_eq, bytes, takeWhile_take_zero]

/-- What is read back of a text that was packed into a number of words.  Without a zero character,
it is the text itself if it fits; else it is its longest beginning that fits, with a replacement
character behind it if the words end within a character.  Of a text with a zero character, only
what stands in front of the zero character counts. -/
theorem packed_read_back (text : String) (width : Nat) :
    (encode text width).length = width ∧
      (∀ front behind, text = front ++ "\x00" ++ behind →
        decode (encode text width) = decode (encode front width)) ∧
      ('\x00' ∉ text.toList →
        (text.utf8ByteSize ≤ 4 * width → decode (encode text width) = text) ∧
        (4 * width < text.utf8ByteSize →
          ∃ kept, IsLongestBeginning text (4 * width) kept ∧
            decode (encode text width) =
              kept ++ if String.Pos.Raw.IsValid text ⟨4 * width⟩ then "" else "\uFFFD")) := by
  refine ⟨length_encode text width, ?_, ?_⟩
  · rintro front behind rfl
    exact decode_encode_zero front behind width
  · intro noZero
    constructor
    · intro room
      exact decode_encode ⟨by rwa [Utf8.length_encode], noZero⟩
    · exact exists_decode_encode_cut noZero

/-- One word ends within a character of three bytes that stands behind three others. -/
theorem packed_read_back_within_character :
    '\x00' ∉ "abc€".toList ∧ 4 * 1 < "abc€".utf8ByteSize ∧
      decode (encode "abc€" 1) = "abc\uFFFD" := by
  have noZero : '\x00' ∉ "abc€".toList := by decide
  have tooLong : 4 * 1 < "abc€".utf8ByteSize := by decide
  refine ⟨noZero, tooLong, ?_⟩
  obtain ⟨kept, longest, read⟩ := ((packed_read_back "abc€" 1).2.2 noZero).2 tooLong
  have next : ∀ character ∈ ['€'].head?,
      4 < "abc".utf8ByteSize + (String.utf8EncodeChar character).length := by
    intro character first
    obtain rfl := Option.some.inj first
    decide
  have whole : IsLongestBeginning "abc€" 4 "abc" :=
    isLongestBeginning_of_next rfl (by decide) next
  have within : ¬String.Pos.Raw.IsValid "abc€" ⟨4⟩ := by
    rw [isValid_iff_of_longest whole]
    decide
  rw [read, longest.unique whole, if_neg within]
  rfl

end PlatformAudit.FixedText
