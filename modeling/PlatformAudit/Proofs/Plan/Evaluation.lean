import PlatformAudit.Plan.Descriptor
import PlatformAudit.Proofs.Word.BitRange

/-!
# What descriptors find

A descriptor looks at some words of an answer and at nothing else.  If they are not all there it
fails.  If they are, what it was built for decides: a field that is only shown informs, a number, a
text and bits that have to be zero pass or fail, and a number of a field that has several words is
an error.
-/

namespace PlatformAudit

namespace Descriptor

/-- Whether the words that a descriptor looks at are there.  A text needs all its words, and
everything else only its first. -/
def Reaches (descriptor : Descriptor) (returns : List UInt32) : Prop :=
  if descriptor.kind = .text then
    descriptor.field.offset + descriptor.field.words ≤ returns.length
  else descriptor.field.offset < returns.length

section Missing

variable {found : Verdict × String} (returns : List UInt32)

private theorem ne_missing_of_outcome (outcome : found.1 ≠ .failed) : found ≠ missing returns :=
  fun same => outcome (congrArg Prod.fst same)

private theorem ne_missing_of_first (first : found.2.toList.head? ≠ some 'n') :
    found ≠ missing returns := by
  intro same
  apply first
  rw [same]
  simp [missing]

private theorem evaluateText_ne_missing (descriptor : Descriptor) (observed : String) :
    descriptor.evaluateText observed ≠ missing returns := by
  unfold evaluateText
  split
  · exact ne_missing_of_outcome returns (by simp)
  · exact ne_missing_of_outcome returns (by simp)
  · split
    · exact ne_missing_of_outcome returns (by simp)
    · exact ne_missing_of_first returns (by simp)
  · exact ne_missing_of_outcome returns (by simp)

private theorem evaluateReserved_ne_missing (range : BitRange) (word : UInt32) :
    evaluateReserved range word ≠ missing returns := by
  unfold evaluateReserved
  split
  · exact ne_missing_of_outcome returns (by simp)
  · exact ne_missing_of_first returns (by simp)

private theorem evaluateNumber_ne_missing (descriptor : Descriptor) (observed : UInt32) :
    descriptor.evaluateNumber observed ≠ missing returns := by
  unfold evaluateNumber
  split
  · exact ne_missing_of_outcome returns (by simp)
  · exact ne_missing_of_outcome returns (by simp)
  · split
    · exact ne_missing_of_outcome returns (by simp)
    · exact ne_missing_of_first returns (by simp)
  · exact ne_missing_of_outcome returns (by simp)

end Missing

/-- A descriptor finds nothing exactly if the answer ends before all that it looks at. -/
theorem evaluate_eq_missing_iff (descriptor : Descriptor) (returns : List UInt32) :
    descriptor.evaluate returns = missing returns ↔ ¬descriptor.Reaches returns := by
  unfold evaluate Reaches
  split
  case h_1 kind =>
    rw [if_pos kind, Field.readText?]
    by_cases reaches : descriptor.field.offset + descriptor.field.words ≤ returns.length
    · simp [reaches, evaluateText_ne_missing]
    · simp [reaches]
  case h_2 other =>
    rw [if_neg other]
    split <;> rename_i found
    · simpa using found
    · have reaches := (List.getElem?_eq_some_iff.mp found).1
      split
      · simp [reaches, evaluateReserved_ne_missing]
      · simp [reaches, evaluateNumber_ne_missing]

/-- A field that fits has all its words inside the largest answer. -/
theorem reaches_of_fits {descriptor : Descriptor} (fits : descriptor.field.FitsPayload)
    {returns : List UInt32} (full : returns.length = maxReturnWords) :
    descriptor.Reaches returns := by
  obtain ⟨someWord, inside⟩ := fits
  unfold Reaches
  split <;> omega

/-- What a descriptor is for. -/
inductive Purpose where
  /-- To show a field. -/
  | display
  /-- To compare a field with a number. -/
  | value (expected : UInt32)
  /-- To compare a field with a text. -/
  | text (expected : String)
  /-- To see that all bits of a field are zero. -/
  | clear

/-- The descriptors of a field for a purpose. -/
inductive BuiltFor (field : Field) : Purpose → Descriptor → Prop where
  | display : BuiltFor field .display (display field)
  | check (expected : UInt32) : BuiltFor field (.value expected) (check field expected)
  | checkText (expected : String) : BuiltFor field (.text expected) (checkText field expected)
  | reserved : BuiltFor field .clear (reserved field)
  | checkIf (known : Option UInt32) :
      BuiltFor field (known.elim .display .value) (checkIf field known)
  | checkTextIf (known : Option String) :
      BuiltFor field (known.elim .display .text) (checkTextIf field known)
  | decimal {purpose : Purpose} {descriptor : Descriptor}
      (built : BuiltFor field purpose descriptor)
      (noText : descriptor.kind ≠ .text) : BuiltFor field purpose descriptor.decimal

def Purpose.width (purpose : Purpose) (field : Field) : Nat :=
  match purpose with
  | .clear => 1
  | .display | .value _ | .text _ => field.words

/-- The words that are looked at for a purpose, as far as they are there. -/
def Purpose.window (purpose : Purpose) (field : Field) (returns : List UInt32) : List UInt32 :=
  (returns.drop field.offset).take (purpose.width field)

/-- The outcome is that a condition holds, or else that it does not. -/
structure Decides (outcome : Verdict) (condition : Prop) : Prop where
  passed_iff : outcome = .passed ↔ condition
  failed_iff : outcome = .failed ↔ ¬condition

/-- What comes out if all words are there that are looked at. -/
inductive Purpose.Finds (field : Field) : Purpose → List UInt32 → Verdict → Prop where
  | display {words : List UInt32} : Finds field .display words .info
  | value {expected word : UInt32} {outcome : Verdict} (single : field.words = 1)
      (decides : Decides outcome
        (word.toNat / (1 <<< field.effectiveRange.lsb) %
          (1 <<< (field.effectiveRange.msb - field.effectiveRange.lsb + 1)) = expected.toNat)) :
      Finds field (.value expected) [word] outcome
  | severalWords {expected : UInt32} {words : List UInt32} (several : 1 < field.words) :
      Finds field (.value expected) words .error
  | text {expected : String} {words : List UInt32} {outcome : Verdict}
      (decides : Decides outcome (FixedText.decode words = expected)) :
      Finds field (.text expected) words outcome
  | clear {word : UInt32} {outcome : Verdict}
      (decides : Decides outcome (∀ index, field.effectiveRange.lsb ≤ index →
        index ≤ field.effectiveRange.msb → word.toNat.testBit index = false)) :
      Finds field .clear [word] outcome

section Purposes

variable {field : Field} {purpose : Purpose} {descriptor : Descriptor}

/-- What the descriptors for a purpose have in common. -/
def Purpose.Shapes (field : Field) (purpose : Purpose) (descriptor : Descriptor) : Prop :=
  match purpose with
  | .display =>
      descriptor.mode = .display ∧ descriptor.kind ≠ .reserved ∧
        (descriptor.kind = .text ↔ 1 < field.words)
  | .value expected =>
      (descriptor.mode = .check ∧ descriptor.expected = .value expected) ∧
        descriptor.kind ≠ .reserved ∧ (descriptor.kind = .text ↔ 1 < field.words)
  | .text expected =>
      (descriptor.mode = .check ∧ descriptor.expected = .text expected) ∧ descriptor.kind = .text
  | .clear =>
      (descriptor.mode = .check ∧ descriptor.expected = .value 0) ∧ descriptor.kind ≠ .text

theorem display_shapes (field : Field) : Purpose.display.Shapes field (display field) := by
  refine ⟨rfl, ?_⟩
  simp only [display]
  split
  · simp_all
  · split <;> simp_all

theorem check_shapes (field : Field) (expected : UInt32) :
    (Purpose.value expected).Shapes field (check field expected) :=
  ⟨⟨rfl, rfl⟩, (display_shapes field).2⟩

theorem BuiltFor.shapes (built : BuiltFor field purpose descriptor) :
    descriptor.field = field ∧ purpose.Shapes field descriptor := by
  induction built with
  | display => exact ⟨rfl, display_shapes field⟩
  | check expected => exact ⟨rfl, check_shapes field expected⟩
  | checkText expected => exact ⟨rfl, ⟨rfl, rfl⟩, rfl⟩
  | reserved => exact ⟨rfl, ⟨rfl, rfl⟩, nofun⟩
  | checkIf known =>
      cases known with
      | none => exact ⟨rfl, display_shapes field⟩
      | some expected => exact ⟨rfl, check_shapes field expected⟩
  | checkTextIf known =>
      cases known with
      | none => exact ⟨rfl, display_shapes field⟩
      | some expected => exact ⟨rfl, ⟨rfl, rfl⟩, rfl⟩
  | decimal built noText induction =>
      refine ⟨induction.1, ?_⟩
      have shapes := induction.2
      unfold Purpose.Shapes at shapes ⊢
      split at shapes <;> simp_all [Descriptor.decimal]

theorem BuiltFor.width_eq (built : BuiltFor field purpose descriptor) (someWord : 1 ≤ field.words) :
    purpose.width field = if descriptor.kind = .text then field.words else 1 := by
  have shapes := built.shapes.2
  unfold Purpose.Shapes at shapes
  unfold Purpose.width
  split at shapes <;> split <;> simp_all <;> omega

theorem BuiltFor.reaches_iff (built : BuiltFor field purpose descriptor)
    (someWord : 1 ≤ field.words) (returns : List UInt32) :
    descriptor.Reaches returns ↔
      (purpose.window field returns).length = purpose.width field := by
  rw [Reaches, built.shapes.1, Purpose.window, List.length_take, List.length_drop,
    built.width_eq someWord]
  split <;> omega

theorem Decides.unique {outcome other : Verdict} {condition : Prop}
    (decides : Decides outcome condition) (also : Decides other condition) : outcome = other := by
  by_cases holds : condition
  · rw [decides.passed_iff.mpr holds, also.passed_iff.mpr holds]
  · rw [decides.failed_iff.mpr holds, also.failed_iff.mpr holds]

theorem Decides.ne_error {outcome : Verdict} {condition : Prop}
    (decides : Decides outcome condition) : outcome ≠ .error := by
  by_cases holds : condition
  · rw [decides.passed_iff.mpr holds]
    decide
  · rw [decides.failed_iff.mpr holds]
    decide

/-- The words that are looked at decide what comes out. -/
theorem Purpose.Finds.unique {words : List UInt32} {outcome other : Verdict}
    (finds : purpose.Finds field words outcome) (also : purpose.Finds field words other) :
    outcome = other := by
  cases finds with
  | display => cases also; rfl
  | value single decides =>
      cases also with
      | value _ others => exact decides.unique others
      | severalWords several => omega
  | severalWords several =>
      cases also with
      | value single _ => omega
      | severalWords _ => rfl
  | text decides =>
      cases also with
      | text others => exact decides.unique others
  | clear decides =>
      cases also with
      | clear others => exact decides.unique others

theorem Purpose.Finds.error_iff {words : List UInt32} {outcome : Verdict}
    (finds : purpose.Finds field words outcome) :
    outcome = .error ↔ (∃ expected, purpose = .value expected) ∧ 1 < field.words := by
  cases finds with
  | display => simp
  | value single decides => simp [decides.ne_error, single]
  | severalWords several => simp [several]
  | text decides => simp [decides.ne_error]
  | clear decides => simp [decides.ne_error]

theorem evaluate_of_text (kind : descriptor.kind = .text) {returns : List UInt32}
    (reaches : descriptor.Reaches returns) :
    descriptor.evaluate returns =
      descriptor.evaluateText (FixedText.decode
        ((returns.drop descriptor.field.offset).take descriptor.field.words)) := by
  rw [Reaches, if_pos kind] at reaches
  unfold evaluate
  split
  · rw [Field.readText?, if_pos reaches]
  · exact absurd kind ‹_›

theorem evaluate_of_word (kind : descriptor.kind ≠ .text) {returns : List UInt32} {word : UInt32}
    (there : returns[descriptor.field.offset]? = some word) :
    descriptor.evaluate returns =
      if descriptor.kind = .reserved then evaluateReserved descriptor.field.effectiveRange word
      else descriptor.evaluateNumber (descriptor.field.effectiveRange.read word) := by
  unfold evaluate
  split
  · exact absurd ‹_› kind
  · rw [there]

theorem decides_evaluateText {expected : String} (mode : descriptor.mode = .check)
    (expects : descriptor.expected = .text expected) (observed : String) :
    Decides (descriptor.evaluateText observed).1 (observed = expected) := by
  simp only [evaluateText, mode, expects]
  by_cases same : expected = observed
  · rw [if_pos same]
    exact ⟨by simp [same], by simp [same]⟩
  · rw [if_neg same]
    exact ⟨by simp [Ne.symm same], by simp [Ne.symm same]⟩

theorem decides_evaluateNumber {expected : UInt32} (mode : descriptor.mode = .check)
    (expects : descriptor.expected = .value expected) (observed : UInt32) :
    Decides (descriptor.evaluateNumber observed).1 (observed = expected) := by
  simp only [evaluateNumber, mode, expects]
  by_cases same : expected = observed
  · rw [if_pos same]
    exact ⟨by simp [same], by simp [same]⟩
  · rw [if_neg same]
    exact ⟨by simp [Ne.symm same], by simp [Ne.symm same]⟩

theorem decides_evaluateReserved (range : BitRange) (word : UInt32) :
    Decides (evaluateReserved range word).1 (range.read word = 0) := by
  simp only [evaluateReserved, BitRange.strayBits?]
  by_cases clear : range.read word = 0
  · rw [if_pos clear]
    exact ⟨by simp [clear], by simp [clear]⟩
  · rw [if_neg clear]
    exact ⟨by simp [clear], by simp [clear]⟩

private theorem BuiltFor.finds_text (built : BuiltFor field purpose descriptor)
    (someWord : 1 ≤ field.words) (kind : descriptor.kind = .text) {returns : List UInt32}
    (reaches : descriptor.Reaches returns) :
    purpose.Finds field (purpose.window field returns) (descriptor.evaluate returns).1 := by
  have width := built.width_eq someWord
  obtain ⟨rfl, shapes⟩ := built.shapes
  rw [if_pos kind] at width
  rw [evaluate_of_text kind reaches, Purpose.window, width]
  cases purpose with
  | display =>
      simp only [evaluateText, shapes.1]
      exact .display
  | value expected =>
      obtain ⟨⟨mode, expects⟩, -, several⟩ := shapes
      simp only [evaluateText, mode, expects]
      exact .severalWords (several.mp kind)
  | text expected => exact .text (decides_evaluateText shapes.1.1 shapes.1.2 _)
  | clear => exact absurd kind shapes.2

private theorem BuiltFor.finds_word (built : BuiltFor field purpose descriptor)
    (someWord : 1 ≤ field.words) (kind : descriptor.kind ≠ .text) {returns : List UInt32}
    {word : UInt32} (there : returns[field.offset]? = some word) :
    purpose.Finds field (purpose.window field returns) (descriptor.evaluate returns).1 := by
  have width := built.width_eq someWord
  obtain ⟨rfl, shapes⟩ := built.shapes
  have window : purpose.window descriptor.field returns = [word] := by
    rw [Purpose.window, width, if_neg kind, List.take_one, List.head?_drop, there]
    rfl
  rw [evaluate_of_word kind there, window]
  cases purpose with
  | display =>
      obtain ⟨mode, notReserved, -⟩ := shapes
      simp only [if_neg notReserved, evaluateNumber, mode]
      exact .display
  | value expected =>
      obtain ⟨⟨mode, expects⟩, notReserved, several⟩ := shapes
      have single : descriptor.field.words = 1 := by
        have := mt several.mpr kind
        omega
      refine .value single ?_
      rw [if_neg notReserved, ← BitRange.read_eq_iff]
      exact decides_evaluateNumber mode expects _
  | text expected => exact absurd shapes.2 kind
  | clear =>
      -- With or without a decimal form, the bits are compared with zero.
      refine .clear ?_
      rw [← BitRange.read_eq_zero_iff]
      split
      · exact decides_evaluateReserved _ _
      · exact decides_evaluateNumber shapes.1.1 shapes.1.2 _

/-- A descriptor whose words are all there finds what its purpose says. -/
theorem BuiltFor.finds (built : BuiltFor field purpose descriptor) (someWord : 1 ≤ field.words)
    {returns : List UInt32} (reaches : descriptor.Reaches returns) :
    purpose.Finds field (purpose.window field returns) (descriptor.evaluate returns).1 := by
  by_cases kind : descriptor.kind = .text
  · exact built.finds_text someWord kind reaches
  · rw [Reaches, if_neg kind, built.shapes.1] at reaches
    exact built.finds_word someWord kind (List.getElem?_eq_getElem reaches)

/-- Whatever a descriptor is built for, its outcome is a matter of the words that it looks at.  It
finds nothing exactly if the answer ends before the last of them; otherwise it finds what its
purpose says about them.  Nothing but a number of several words is an error. -/
theorem evaluate_finds (someWord : 1 ≤ field.words) (built : BuiltFor field purpose descriptor)
    (returns : List UInt32) :
    let words := purpose.window field returns
    let outcome := (descriptor.evaluate returns).1
    (∀ other, purpose.window field other = words → (descriptor.evaluate other).1 = outcome) ∧
      (descriptor.evaluate returns = missing returns ↔ words.length < purpose.width field) ∧
      (words.length = purpose.width field → purpose.Finds field words outcome) ∧
      (outcome = .error ↔ words.length = purpose.width field ∧
        (∃ expected, purpose = .value expected) ∧ 1 < field.words) := by
  intro words outcome
  have reaches (answer : List UInt32) := built.reaches_iff someWord answer
  have short (answer : List UInt32) (away : ¬descriptor.Reaches answer) :
      (descriptor.evaluate answer).1 = .failed := by
    rw [(evaluate_eq_missing_iff descriptor answer).mpr away]
    rfl
  have within : words.length ≤ purpose.width field := List.length_take_le _ _
  refine ⟨?_, ?_, ?_, ?_⟩
  · intro other same
    by_cases complete : descriptor.Reaches returns
    · have also : descriptor.Reaches other := by
        rw [reaches, same]
        exact (reaches returns).mp complete
      have found := built.finds someWord also
      rw [same] at found
      exact found.unique (built.finds someWord complete)
    · have neither : ¬descriptor.Reaches other := by
        rw [reaches, same]
        exact mt (reaches returns).mpr complete
      rw [short other neither]
      exact (short returns complete).symm
  · rw [evaluate_eq_missing_iff, reaches]
    change ¬words.length = _ ↔ _
    omega
  · intro complete
    exact built.finds someWord ((reaches returns).mpr complete)
  · by_cases complete : descriptor.Reaches returns
    · rw [(built.finds someWord complete).error_iff]
      exact (and_iff_right ((reaches returns).mp complete)).symm
    · have failed : outcome = .failed := short returns complete
      rw [failed]
      constructor
      · nofun
      · rintro ⟨all, -⟩
        exact absurd ((reaches returns).mpr all) complete

end Purposes

/-- Four bits of the second word are compared with a number and shown in decimal. -/
theorem evaluate_finds_number :
    let field := Field.range "state" 1 { msb := 7, lsb := 4 }
    1 ≤ field.words ∧ BuiltFor field (.value 5) (check field 5).decimal ∧
      ((check field 5).decimal.evaluate [0, 0x3456]).1 = .passed ∧
      (check field 5).decimal.evaluate [0] = missing [0] := by
  intro field
  have built : BuiltFor field (.value 5) (check field 5).decimal := .decimal (.check 5) (by decide)
  refine ⟨by decide, built, ?_, ?_⟩
  · have found := (evaluate_finds (by decide) built [0, 0x3456]).2.2.1 (by decide)
    generalize ((check field 5).decimal.evaluate [0, 0x3456]).1 = outcome at found ⊢
    cases found with
    | value _ decides => exact decides.passed_iff.mpr (by decide)
    | severalWords several => exact absurd several (by decide)
  · exact (evaluate_finds (by decide) built [0]).2.1.mpr (by decide)

end Descriptor

end PlatformAudit
