import PlatformAudit.Word.LittleEndian

/-!
# Words and bytes

A word is put together from its bytes and taken apart into them without loss, and so are lists of
words.  `numberAt` is the number that stands at an offset of a buffer; a word is read at an offset
if and only if its four bytes are inside the buffer, and then it is this number.
-/

namespace PlatformAudit.LittleEndian

theorem bytes_word (byte₀ byte₁ byte₂ byte₃ : UInt8) :
    bytes (word byte₀ byte₁ byte₂ byte₃) = [byte₀, byte₁, byte₂, byte₃] := by
  have below₀ := byte₀.toNat_lt
  have below₁ := byte₁.toNat_lt
  have below₂ := byte₂.toNat_lt
  have below₃ := byte₃.toNat_lt
  have value : (word byte₀ byte₁ byte₂ byte₃).toNat =
      byte₀.toNat + 0x100 * byte₁.toNat + 0x10000 * byte₂.toNat + 0x1000000 * byte₃.toNat := by
    rw [word, UInt32.toNat_ofNat_of_lt' (by change _ < 4294967296; omega)]
  simp only [bytes, value, List.cons.injEq, ← UInt8.toNat_inj, UInt8.toNat_ofNat', and_true]
  refine ⟨?_, ?_, ?_, ?_⟩ <;> omega

theorem word_bytes (value : UInt32) :
    word (UInt8.ofNat value.toNat) (UInt8.ofNat (value.toNat / 0x100))
        (UInt8.ofNat (value.toNat / 0x10000)) (UInt8.ofNat (value.toNat / 0x1000000)) =
      value := by
  have below : value.toNat < 4294967296 := value.toNat_lt
  apply UInt32.toNat_inj.mp
  simp only [word, UInt8.toNat_ofNat', UInt32.toNat_ofNat']
  omega

@[simp] theorem length_bytesOfWords (values : List UInt32) :
    (bytesOfWords values).length = 4 * values.length := by
  induction values with
  | nil => rfl
  | cons value values induction =>
      rw [bytesOfWords, List.flatMap_cons, ← bytesOfWords, List.length_append, induction]
      simp only [bytes, List.length_cons, List.length_nil]
      omega

theorem bytesOfWords_append (first second : List UInt32) :
    bytesOfWords (first ++ second) = bytesOfWords first ++ bytesOfWords second :=
  List.flatMap_append

theorem bytesOfWords_replicate_zero (count : Nat) :
    bytesOfWords (List.replicate count 0) = List.replicate (4 * count) 0 := by
  induction count with
  | zero => rfl
  | succ count induction =>
      rw [List.replicate_succ, bytesOfWords, List.flatMap_cons, ← bytesOfWords, induction,
        Nat.mul_succ, Nat.add_comm, ← List.replicate_append_replicate]
      rfl

theorem bytesOfWords_words (buffer : List UInt8) (whole : buffer.length % 4 = 0) :
    bytesOfWords (words buffer) = buffer := by
  induction buffer using words.induct with
  | case1 byte₀ byte₁ byte₂ byte₃ rest induction =>
      have wholeRest : rest.length % 4 = 0 := by
        simp only [List.length_cons] at whole
        omega
      rw [words, bytesOfWords, List.flatMap_cons, bytes_word]
      exact congrArg (byte₀ :: byte₁ :: byte₂ :: byte₃ :: ·) (induction wholeRest)
  | case2 buffer short =>
      rcases buffer with _ | ⟨byte₀, _ | ⟨byte₁, _ | ⟨byte₂, _ | ⟨byte₃, rest⟩⟩⟩⟩
      · rfl
      · simp at whole
      · simp at whole
      · simp at whole
      · exact absurd rfl (short byte₀ byte₁ byte₂ byte₃ rest)

theorem words_bytesOfWords (values : List UInt32) : words (bytesOfWords values) = values := by
  induction values with
  | nil => rfl
  | cons value values induction =>
      rw [bytesOfWords, List.flatMap_cons, ← bytesOfWords]
      simp only [bytes, List.cons_append, List.nil_append, words, word_bytes, induction]

theorem length_words (buffer : List UInt8) : (words buffer).length = buffer.length / 4 := by
  induction buffer using words.induct with
  | case1 byte₀ byte₁ byte₂ byte₃ rest induction =>
      simp only [words, List.length_cons, induction]
      omega
  | case2 buffer short =>
      rcases buffer with _ | ⟨byte₀, _ | ⟨byte₁, _ | ⟨byte₂, _ | ⟨byte₃, rest⟩⟩⟩⟩
      · rfl
      · simp [words]
      · simp [words]
      · simp [words]
      · exact absurd rfl (short byte₀ byte₁ byte₂ byte₃ rest)

theorem drop_bytesOfWords (values : List UInt32) (count : Nat) :
    (bytesOfWords values).drop (4 * count) = bytesOfWords (values.drop count) := by
  induction values generalizing count with
  | nil => simp [bytesOfWords]
  | cons value values induction =>
      cases count with
      | zero => rfl
      | succ count =>
          rw [bytesOfWords, List.flatMap_cons, ← bytesOfWords, Nat.mul_succ, Nat.add_comm,
            ← List.drop_drop]
          exact induction count

theorem take_bytesOfWords (values : List UInt32) (count : Nat) :
    (bytesOfWords values).take (4 * count) = bytesOfWords (values.take count) := by
  induction values generalizing count with
  | nil => simp [bytesOfWords]
  | cons value values induction =>
      cases count with
      | zero => rfl
      | succ count =>
          have rest := induction count
          rw [List.take_succ_cons, bytesOfWords, bytesOfWords, List.flatMap_cons, List.flatMap_cons,
            ← bytesOfWords, ← bytesOfWords, ← rest]
          rfl

theorem bytesOfWords_injective {first second : List UInt32}
    (same : bytesOfWords first = bytesOfWords second) : first = second := by
  rw [← words_bytesOfWords first, same, words_bytesOfWords]

/-- Bytes are padded with zero bytes up to the next whole word. -/
theorem paddedWords_eq (buffer : List UInt8) :
    paddedWords buffer =
      words (buffer ++ List.replicate (4 * ((buffer.length + 3) / 4) - buffer.length) 0) := by
  induction buffer using paddedWords.induct with
  | case1 => rfl
  | case2 byte₀ => simp [paddedWords, words, List.replicate_succ]
  | case3 byte₀ byte₁ => simp [paddedWords, words, List.replicate_succ]
  | case4 byte₀ byte₁ byte₂ => simp [paddedWords, words]
  | case5 byte₀ byte₁ byte₂ byte₃ rest induction =>
      have padding : 4 * ((rest.length + 4 + 3) / 4) - (rest.length + 4) =
          4 * ((rest.length + 3) / 4) - rest.length := by omega
      simp only [paddedWords, List.length_cons, List.cons_append, padding, words, induction]

theorem length_paddedWords (buffer : List UInt8) :
    (paddedWords buffer).length = (buffer.length + 3) / 4 := by
  rw [paddedWords_eq, length_words, List.length_append, List.length_replicate]
  omega

theorem bytesOfWords_paddedWords (buffer : List UInt8) :
    bytesOfWords (paddedWords buffer) =
      buffer ++ List.replicate (4 * ((buffer.length + 3) / 4) - buffer.length) 0 := by
  rw [paddedWords_eq, bytesOfWords_words]
  rw [List.length_append, List.length_replicate]
  omega

theorem paddedWords_bytesOfWords (values : List UInt32) :
    paddedWords (bytesOfWords values) = values := by
  apply bytesOfWords_injective
  have whole : 4 * ((4 * values.length + 3) / 4) - 4 * values.length = 0 := by omega
  rw [bytesOfWords_paddedWords, length_bytesOfWords, whole, List.replicate_zero, List.append_nil]

theorem eq_replicate_of_bytes_eq_zero {values : List UInt32}
    (zero : ∀ byte ∈ bytesOfWords values, byte = 0) : values = List.replicate values.length 0 := by
  apply bytesOfWords_injective
  rw [bytesOfWords_replicate_zero]
  exact List.eq_replicate_of_mem zero |>.trans (by rw [length_bytesOfWords])

/-! ### Numbers in a buffer -/

/-- The number of the four bytes from an offset on.  A byte behind the end counts as zero. -/
def numberAt (buffer : List UInt8) (offset : Nat) : Nat :=
  (buffer.getD offset 0).toNat + 0x100 * (buffer.getD (offset + 1) 0).toNat +
    0x10000 * (buffer.getD (offset + 2) 0).toNat +
    0x1000000 * (buffer.getD (offset + 3) 0).toNat

theorem numberAt_lt (buffer : List UInt8) (offset : Nat) :
    numberAt buffer offset < 0x100000000 := by
  have below₀ := (buffer.getD offset 0).toNat_lt
  have below₁ := (buffer.getD (offset + 1) 0).toNat_lt
  have below₂ := (buffer.getD (offset + 2) 0).toNat_lt
  have below₃ := (buffer.getD (offset + 3) 0).toNat_lt
  unfold numberAt
  omega

theorem getD_append_replicate (buffer : List UInt8) (count index : Nat) :
    (buffer ++ List.replicate count 0).getD index 0 = buffer.getD index 0 := by
  rw [List.getD_eq_getElem?_getD, List.getD_eq_getElem?_getD]
  by_cases inside : index < buffer.length
  · rw [List.getElem?_append_left inside]
  · have behind := Nat.le_of_not_lt inside
    rw [List.getElem?_append_right behind, List.getElem?_eq_none behind, List.getElem?_replicate]
    split <;> rfl

theorem numberAt_drop (buffer : List UInt8) (start offset : Nat) :
    numberAt (buffer.drop start) offset = numberAt buffer (start + offset) := by
  simp only [numberAt, List.getD_eq_getElem?_getD, List.getElem?_drop, Nat.add_assoc]

theorem numberAt_take {buffer : List UInt8} {count offset : Nat} (inside : offset + 4 ≤ count) :
    numberAt (buffer.take count) offset = numberAt buffer offset := by
  have kept (index : Nat) (below : index < count) : (buffer.take count)[index]? = buffer[index]? :=
    List.getElem?_take_of_lt below
  simp only [numberAt, List.getD_eq_getElem?_getD]
  rw [kept _ (by omega), kept _ (by omega), kept _ (by omega), kept _ (by omega)]

theorem numberAt_append_zeros (buffer : List UInt8) (count offset : Nat) :
    numberAt (buffer ++ List.replicate count 0) offset = numberAt buffer offset := by
  simp only [numberAt, getD_append_replicate]

/-- A word is read at an offset if and only if all its bytes are in the buffer. -/
theorem wordAt?_eq (buffer : List UInt8) (offset : Nat) :
    wordAt? buffer offset =
      if offset + 4 ≤ buffer.length then some (UInt32.ofNat (numberAt buffer offset))
      else none := by
  have number := numberAt_drop buffer offset 0
  have length := List.length_drop (i := offset) (l := buffer)
  unfold wordAt?
  split
  · rename_i byte₀ byte₁ byte₂ byte₃ rest bytes
    rw [bytes] at number length
    simp only [List.length_cons] at length
    rw [if_pos (by omega), ← Nat.add_zero offset, ← number]
    rfl
  · rename_i short
    rw [if_neg]
    intro inside
    rcases bytes : buffer.drop offset with _ | ⟨byte₀, _ | ⟨byte₁, _ | ⟨byte₂, _ | ⟨byte₃, rest⟩⟩⟩⟩
    case cons.cons.cons.cons => exact short byte₀ byte₁ byte₂ byte₃ rest bytes
    all_goals
      rw [bytes] at length
      simp only [List.length_cons, List.length_nil] at length
      omega

/-- The first word of some bytes is the number that they start with, and the other words follow. -/
theorem words_eq_cons {buffer : List UInt8} (enough : 4 ≤ buffer.length) :
    words buffer = UInt32.ofNat (numberAt buffer 0) :: words (buffer.drop 4) := by
  rcases buffer with _ | ⟨byte₀, _ | ⟨byte₁, _ | ⟨byte₂, _ | ⟨byte₃, rest⟩⟩⟩⟩
  case cons.cons.cons.cons => rfl
  all_goals simp at enough

theorem numberAt_bytesOfWords (values : List UInt32) (position : Nat) :
    numberAt (bytesOfWords values) (4 * position) = (values.getD position 0).toNat := by
  have number := numberAt_drop (bytesOfWords values) (4 * position) 0
  rw [Nat.add_zero, drop_bytesOfWords] at number
  have first : values.getD position 0 = (values.drop position).getD 0 0 := by
    simp [List.getD_eq_getElem?_getD]
  rw [← number, first]
  rcases values.drop position with _ | ⟨value, rest⟩
  · rfl
  · have below : value.toNat < 4294967296 := value.toNat_lt
    rw [bytesOfWords, List.flatMap_cons]
    simp only [numberAt, bytes, List.cons_append, List.getD_cons_zero, List.getD_cons_succ,
      UInt8.toNat_ofNat', List.nil_append]
    omega

theorem wordAt?_bytesOfWords (values : List UInt32) (position : Nat) :
    wordAt? (bytesOfWords values) (4 * position) = values[position]? := by
  rw [wordAt?_eq, numberAt_bytesOfWords, length_bytesOfWords]
  by_cases inside : position < values.length
  · rw [if_pos (by omega), UInt32.ofNat_toNat, List.getElem?_eq_getElem inside]
    simp [inside]
  · rw [if_neg (by omega), List.getElem?_eq_none (Nat.not_lt.mp inside)]

end PlatformAudit.LittleEndian
