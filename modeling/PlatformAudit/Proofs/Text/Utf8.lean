import PlatformAudit.Text.Utf8

/-!
# UTF-8 there and back

Decoding reads the bytes of every text back to that text.  The automaton is followed through the one
to four bytes of a character; the bounds of the second byte are what a first byte of a longer form
leaves open.
-/

namespace PlatformAudit.Utf8

/-- Reading a first byte, with its number. -/
theorem begin_ofNat {number : Nat} (byte : number < 0x100) :
    begin (UInt8.ofNat number) =
      if number < 0x80 then ([Char.ofNat number], none)
      else if number < 0xC2 then ([replacement], none)
      else if number < 0xE0 then ([], some ⟨number - 0xC0, 1, 0x80, 0xBF⟩)
      else if number = 0xE0 then ([], some ⟨0, 2, 0xA0, 0xBF⟩)
      else if number = 0xED then ([], some ⟨0xD, 2, 0x80, 0x9F⟩)
      else if number < 0xF0 then ([], some ⟨number - 0xE0, 2, 0x80, 0xBF⟩)
      else if number = 0xF0 then ([], some ⟨0, 3, 0x90, 0xBF⟩)
      else if number < 0xF4 then ([], some ⟨number - 0xF0, 3, 0x80, 0xBF⟩)
      else if number = 0xF4 then ([], some ⟨4, 3, 0x80, 0x8F⟩)
      else ([replacement], none) := by
  have value : (UInt8.ofNat number).toNat = number := UInt8.toNat_ofNat_of_lt' byte
  simp only [begin, UInt8.lt_iff_toNat_lt, ← UInt8.toNat_inj, value]
  rfl

/-- Reading a byte that goes on with a character. -/
theorem advance_within {bits missing number : Nat} {low high : UInt8} (below : number < 0x40)
    (lower : low.toNat ≤ number + 0x80) (upper : number + 0x80 ≤ high.toNat) :
    advance (some ⟨bits, missing, low, high⟩) (UInt8.ofNat (number + 0x80)) =
      if missing ≤ 1 then ([Char.ofNat (0x40 * bits + number)], none)
      else ([], some ⟨0x40 * bits + number, missing - 1, 0x80, 0xBF⟩) := by
  have byte : number + 0x80 < 0x100 := by omega
  have value : (UInt8.ofNat (number + 0x80)).toNat = number + 0x80 :=
    UInt8.toNat_ofNat_of_lt' byte
  simp only [advance, UInt8.le_iff_toNat_le, value]
  rw [if_pos ⟨lower, upper⟩, Nat.add_sub_cancel]

theorem begin_three {lead : Nat} (below : lead < 0x10) :
    begin (UInt8.ofNat (lead + 0xE0)) =
      ([], some ⟨lead, 2, if lead = 0 then 0xA0 else 0x80, if lead = 0xD then 0x9F else 0xBF⟩) := by
  rw [begin_ofNat (by omega), if_neg (by omega), if_neg (by omega), if_neg (by omega)]
  by_cases first : lead = 0
  · subst first
    rfl
  · rw [if_neg (by omega), if_neg first]
    by_cases surrogates : lead = 0xD
    · subst surrogates
      rfl
    · rw [if_neg (by omega), if_pos (by omega), if_neg surrogates, Nat.add_sub_cancel]

theorem begin_four {lead : Nat} (below : lead ≤ 4) :
    begin (UInt8.ofNat (lead + 0xF0)) =
      ([], some ⟨lead, 3, if lead = 0 then 0x90 else 0x80, if lead = 4 then 0x8F else 0xBF⟩) := by
  rw [begin_ofNat (by omega), if_neg (by omega), if_neg (by omega), if_neg (by omega),
    if_neg (by omega), if_neg (by omega), if_neg (by omega)]
  by_cases first : lead = 0
  · subst first
    rfl
  · rw [if_neg (by omega), if_neg first]
    by_cases last : lead = 4
    · subst last
      rfl
    · rw [if_pos (by omega), if_neg last, Nat.add_sub_cancel]

private theorem decodeFrom_begin {byte : UInt8} {after : Option Begun}
    (step : begin byte = ([], after)) (rest : List UInt8) :
    decodeFrom none (byte :: rest) = decodeFrom after rest := by
  rw [decodeFrom, advance, step]
  rfl

private theorem decodeFrom_more {number missing : Nat} {low high : UInt8}
    (lower : low.toNat ≤ number % 0x40 + 0x80) (upper : number % 0x40 + 0x80 ≤ high.toNat)
    (more : 1 < missing) (rest : List UInt8) :
    decodeFrom (some ⟨number / 0x40, missing, low, high⟩)
        (UInt8.ofNat (number % 0x40 + 0x80) :: rest) =
      decodeFrom (some ⟨number, missing - 1, 0x80, 0xBF⟩) rest := by
  have whole : 0x40 * (number / 0x40) + number % 0x40 = number := by omega
  rw [decodeFrom, advance_within (by omega) lower upper, if_neg (by omega), whole]
  rfl

private theorem continuation_lower (number : Nat) :
    (0x80 : UInt8).toNat ≤ number % 0x40 + 0x80 := by
  change 0x80 ≤ _
  omega

private theorem continuation_upper (number : Nat) :
    number % 0x40 + 0x80 ≤ (0xBF : UInt8).toNat := by
  change _ ≤ 0xBF
  omega

private theorem decodeFrom_last (number : Nat) (rest : List UInt8) :
    decodeFrom (some ⟨number / 0x40, 1, 0x80, 0xBF⟩)
        (UInt8.ofNat (number % 0x40 + 0x80) :: rest) =
      Char.ofNat number :: decodeFrom none rest := by
  have whole : 0x40 * (number / 0x40) + number % 0x40 = number := by omega
  rw [decodeFrom,
    advance_within (by omega) (continuation_lower number) (continuation_upper number),
    if_pos (by omega), whole]
  rfl

private theorem valid_number (character : Char) :
    character.val.toNat < 0xD800 ∨
      0xDFFF < character.val.toNat ∧ character.val.toNat < 0x110000 :=
  character.valid

private theorem decodeFrom_two {number : Nat} (above : 0x7F < number) (below : number ≤ 0x7FF)
    (rest : List UInt8) :
    decodeFrom none (UInt8.ofNat (number / 64 + 0xC0) :: rest) =
      decodeFrom (some ⟨number / 64, 1, 0x80, 0xBF⟩) rest := by
  have first : begin (UInt8.ofNat (number / 64 + 0xC0)) =
      ([], some ⟨number / 64, 1, 0x80, 0xBF⟩) := by
    rw [begin_ofNat (by omega), if_neg (by omega), if_neg (by omega), if_pos (by omega),
      Nat.add_sub_cancel]
  exact decodeFrom_begin first rest

private theorem decodeFrom_three {number : Nat} (above : 0x7FF < number) (below : number ≤ 0xFFFF)
    (valid : number < 0xD800 ∨ 0xDFFF < number ∧ number < 0x110000) (rest : List UInt8) :
    decodeFrom none
        (UInt8.ofNat (number / 64 / 64 + 0xE0) :: UInt8.ofNat (number / 64 % 0x40 + 0x80) :: rest) =
      decodeFrom (some ⟨number / 64, 1, 0x80, 0xBF⟩) rest := by
  rw [decodeFrom_begin (begin_three (by omega)), decodeFrom_more _ _ (by omega)]
  · split
    · change 0xA0 ≤ _
      omega
    · change 0x80 ≤ _
      omega
  · split
    · change _ ≤ 0x9F
      omega
    · change _ ≤ 0xBF
      omega

private theorem decodeFrom_four {number : Nat} (above : 0xFFFF < number)
    (valid : number < 0xD800 ∨ 0xDFFF < number ∧ number < 0x110000) (rest : List UInt8) :
    decodeFrom none
        (UInt8.ofNat (number / 64 / 64 / 64 + 0xF0) ::
          UInt8.ofNat (number / 64 / 64 % 0x40 + 0x80) :: rest) =
      decodeFrom (some ⟨number / 64 / 64, 2, 0x80, 0xBF⟩) rest := by
  rw [decodeFrom_begin (begin_four (by omega)), decodeFrom_more _ _ (by omega)]
  · split
    · change 0x90 ≤ _
      omega
    · change 0x80 ≤ _
      omega
  · split
    · change _ ≤ 0x8F
      omega
    · change _ ≤ 0xBF
      omega

/-- The bytes of a character, by their number. -/
private theorem encodeChar_cases (character : Char) :
    let number := character.val.toNat
    let last := UInt8.ofNat (number % 0x40 + 0x80)
    number ≤ 0x7F ∧ String.utf8EncodeChar character = [UInt8.ofNat number] ∨
      (0x7F < number ∧ number ≤ 0x7FF) ∧
        String.utf8EncodeChar character = [UInt8.ofNat (number / 64 + 0xC0), last] ∨
      (0x7FF < number ∧ number ≤ 0xFFFF) ∧
        String.utf8EncodeChar character =
          [ UInt8.ofNat (number / 64 / 64 + 0xE0)
          , UInt8.ofNat (number / 64 % 0x40 + 0x80), last ] ∨
      0xFFFF < number ∧
        String.utf8EncodeChar character =
          [ UInt8.ofNat (number / 64 / 64 / 64 + 0xF0)
          , UInt8.ofNat (number / 64 / 64 % 0x40 + 0x80)
          , UInt8.ofNat (number / 64 % 0x40 + 0x80), last ] := by
  have valid := valid_number character
  unfold String.utf8EncodeChar
  generalize character.val.toNat = number at *
  dsimp only
  by_cases one : number ≤ 0x7F
  · rw [if_pos one]
    exact .inl ⟨one, rfl⟩
  by_cases two : number ≤ 0x7FF
  · have lead : number / 64 % 0x20 = number / 64 := by omega
    rw [if_neg one, if_pos two, lead]
    exact .inr (.inl ⟨⟨by omega, two⟩, rfl⟩)
  by_cases three : number ≤ 0xFFFF
  · have lead : number / 4096 % 0x10 = number / 64 / 64 := by omega
    rw [if_neg one, if_neg two, if_pos three, lead]
    exact .inr (.inr (.inl ⟨⟨by omega, three⟩, rfl⟩))
  · have lead : number / 262144 % 0x08 = number / 64 / 64 / 64 := by omega
    have second : number / 4096 = number / 64 / 64 := by omega
    rw [if_neg one, if_neg two, if_neg three, lead, second]
    exact .inr (.inr (.inr ⟨by omega, rfl⟩))

/-- The bytes of a character are read back to it, whatever comes behind them. -/
theorem decodeFrom_character (character : Char) (rest : List UInt8) :
    decodeFrom none (String.utf8EncodeChar character ++ rest) =
      character :: decodeFrom none rest := by
  have itself : Char.ofNat character.val.toNat = character := Char.ofNat_toNat character
  have valid := valid_number character
  rcases encodeChar_cases character with
    ⟨small, bytes⟩ | ⟨⟨above, below⟩, bytes⟩ | ⟨⟨above, below⟩, bytes⟩ | ⟨above, bytes⟩ <;>
    rw [bytes] <;> simp only [List.cons_append, List.nil_append]
  · rw [decodeFrom, advance, begin_ofNat (by omega), if_pos (by omega), itself]
    rfl
  · rw [decodeFrom_two above below, decodeFrom_last, itself]
  · rw [decodeFrom_three above below valid, decodeFrom_last, itself]
  · rw [decodeFrom_four above valid,
      decodeFrom_more (continuation_lower _) (continuation_upper _) (by omega), decodeFrom_last,
      itself]

/-- However many bytes of a character are missing at the end, one replacement character stands for
those that are there. -/
theorem decodeFrom_cut {character : Char} {count : Nat} (begun : 0 < count)
    (cut : count < (String.utf8EncodeChar character).length) :
    decodeFrom none ((String.utf8EncodeChar character).take count) = [replacement] := by
  have valid := valid_number character
  rcases encodeChar_cases character with
    ⟨small, bytes⟩ | ⟨⟨above, below⟩, bytes⟩ | ⟨⟨above, below⟩, bytes⟩ | ⟨above, bytes⟩ <;>
    rw [bytes] at cut ⊢ <;> simp only [List.length_cons, List.length_nil] at cut
  · omega
  · obtain rfl : count = 1 := by omega
    exact decodeFrom_two above below []
  · obtain rfl | rfl : count = 1 ∨ count = 2 := by omega
    · exact decodeFrom_begin (begin_three (by omega)) []
    · exact decodeFrom_three above below valid []
  · obtain rfl | rfl | rfl : count = 1 ∨ count = 2 ∨ count = 3 := by omega
    · exact decodeFrom_begin (begin_four (by omega)) []
    · exact decodeFrom_four above valid []
    · simp only [List.take_succ_cons, List.take_zero]
      rw [decodeFrom_four above valid,
        decodeFrom_more (continuation_lower _) (continuation_upper _) (by omega)]
      rfl

/-- Text survives being written and read. -/
theorem decode_encode (text : String) : decode (encode text) = text := by
  have characters : ∀ list : List Char,
      decodeFrom none (list.flatMap String.utf8EncodeChar) = list := by
    intro list
    induction list with
    | nil => rfl
    | cons character rest induction =>
        rw [List.flatMap_cons, decodeFrom_character, induction]
  rw [decode, encode, characters, String.ofList_toList]

/-- The bytes of a text that is cut off are read as the characters that are there as a whole.  One
replacement character stands behind them if the cut goes through a character. -/
theorem decodeFrom_take (characters : List Char) (limit : Nat) :
    ∃ kept behind, characters = kept ++ behind ∧
      (kept.flatMap String.utf8EncodeChar).length ≤ limit ∧
      (∀ next ∈ behind.head?,
        limit < (kept.flatMap String.utf8EncodeChar).length +
          (String.utf8EncodeChar next).length) ∧
      decodeFrom none ((characters.flatMap String.utf8EncodeChar).take limit) =
        kept ++
          if behind = [] ∨ (kept.flatMap String.utf8EncodeChar).length = limit then []
          else [replacement] := by
  -- A whole character takes its bytes off the limit; the first one without room is cut.
  induction characters generalizing limit with
  | nil => exact ⟨[], [], rfl, Nat.zero_le _, nofun, by simp [decodeFrom]⟩
  | cons character rest induction =>
      rw [List.flatMap_cons]
      by_cases whole : (String.utf8EncodeChar character).length ≤ limit
      · obtain ⟨kept, behind, split, fits, longest, decoded⟩ :=
          induction (limit - (String.utf8EncodeChar character).length)
        refine ⟨character :: kept, behind, by rw [split]; rfl, ?_, ?_, ?_⟩
        · rw [List.flatMap_cons, List.length_append]
          omega
        · intro next first
          have beyond := longest next first
          rw [List.flatMap_cons, List.length_append]
          omega
        · have same : (kept.flatMap String.utf8EncodeChar).length =
                limit - (String.utf8EncodeChar character).length ↔
              ((character :: kept).flatMap String.utf8EncodeChar).length = limit := by
            rw [List.flatMap_cons, List.length_append]
            omega
          rw [List.take_append, List.take_of_length_le whole, decodeFrom_character, decoded]
          simp only [same, List.cons_append]
      · rw [List.take_append_of_le_length (by omega)]
        refine ⟨[], character :: rest, rfl, Nat.zero_le _, ?_, ?_⟩
        · intro next first
          obtain rfl := Option.some.inj first
          simp only [List.flatMap_nil, List.length_nil]
          omega
        · rcases Nat.eq_zero_or_pos limit with rfl | begun
          · simp [decodeFrom]
          · have away : ¬0 = limit := by omega
            rw [decodeFrom_cut begun (by omega)]
            simp [away]

theorem length_flatMap_encodeChar (characters : List Char) :
    (characters.flatMap String.utf8EncodeChar).length =
      (String.ofList characters).utf8ByteSize := by
  rw [← String.size_toByteArray, String.toByteArray_ofList, List.utf8Encode, List.size_toByteArray]

theorem length_encode (text : String) : (encode text).length = text.utf8ByteSize := by
  rw [encode, length_flatMap_encodeChar, String.ofList_toList]

/-- Only the zero character has a zero byte. -/
theorem zero_not_mem_encodeChar {character : Char} (notZero : character ≠ '\x00') :
    0 ∉ String.utf8EncodeChar character := by
  have positive : character.val.toNat ≠ 0 := by
    intro zero
    exact notZero (Char.ext (UInt32.toNat_inj.mp zero))
  have byte {number : Nat} (within : number % 0x100 ≠ 0) : 0 ≠ UInt8.ofNat number := by
    intro same
    have zero : (0 : UInt8).toNat = number % 0x100 := by
      rw [same, UInt8.toNat_ofNat']
    exact within zero.symm
  have valid := valid_number character
  intro member
  rcases encodeChar_cases character with
    ⟨small, bytes⟩ | ⟨⟨above, below⟩, bytes⟩ | ⟨⟨above, below⟩, bytes⟩ | ⟨above, bytes⟩ <;>
    rw [bytes] at member <;> simp only [List.mem_cons, List.not_mem_nil, or_false] at member
  · exact byte (by omega) member
  · rcases member with member | member <;> exact byte (by omega) member
  · rcases member with member | member | member <;> exact byte (by omega) member
  · rcases member with member | member | member | member <;> exact byte (by omega) member

theorem zero_not_mem_encode {text : String} (noZero : '\x00' ∉ text.toList) :
    0 ∉ encode text := by
  intro member
  obtain ⟨character, inside, byte⟩ := List.mem_flatMap.mp member
  refine zero_not_mem_encodeChar ?_ byte
  rintro rfl
  exact noZero inside

end PlatformAudit.Utf8
