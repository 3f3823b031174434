import PlatformAudit.Plan.Script
import PlatformAudit.Proofs.Report.RollUp
import PlatformAudit.Proofs.Word.BitRange

/-!
# Checks that come out clean

When the check of a status and the check of a field neither fail nor go wrong.
-/

namespace PlatformAudit

@[simp] theorem Check.isClean_passed (name detail : String) :
    Check.IsClean { name, outcome := .passed, detail } := by
  simp [Check.IsClean]

@[simp] theorem Check.isClean_info (name detail : String) :
    Check.IsClean { name, outcome := .info, detail } := by
  simp [Check.IsClean]

@[simp] theorem Check.isClean_skip (name detail : String) :
    Check.IsClean { name, outcome := .skip, detail } := by
  simp [Check.IsClean]

namespace ExpectedStatus

theorem toCheck_exact_isClean (status : Status) (name : String) :
    ((exact status).toCheck name status.code).IsClean := by
  simp [toCheck]

theorem toCheck_unspecified_isClean (name : String) (observed : Int32) :
    (unspecified.toCheck name observed).IsClean := by
  simp [toCheck]

@[simp] theorem name_toCheck (expected : ExpectedStatus) (name : String) (observed : Int32) :
    (expected.toCheck name observed).name = name := by
  unfold toCheck
  split
  · rfl
  · split <;> rfl

theorem toCheck_outcome_ne_skip (expected : ExpectedStatus) (name : String) (observed : Int32) :
    (expected.toCheck name observed).outcome ≠ .skip := by
  unfold toCheck
  split
  · simp
  · split <;> simp

theorem toCheck_failed_iff (expected : ExpectedStatus) (name : String) (observed : Int32) :
    (expected.toCheck name observed).outcome = .failed ↔
      ∃ status, expected = .exact status ∧ observed ≠ status.code := by
  unfold toCheck
  split
  · simp
  · split <;> rename_i same
    · simp [same]
    · simp [Ne.symm same]

theorem toCheck_ne_error (expected : ExpectedStatus) (name : String) (observed : Int32) :
    (expected.toCheck name observed).outcome ≠ .error := by
  unfold toCheck
  split
  · simp
  · split <;> simp

end ExpectedStatus

namespace Descriptor

variable {descriptor : Descriptor} {returns : List UInt32} {word : UInt32}

/-- Whether a descriptor looks at one word and reads a number from it. -/
def isNumeric (descriptor : Descriptor) : Bool :=
  match descriptor.kind with
  | .text | .reserved => false
  | .hex | .decimal | .bits => true

theorem toCheck_isClean_of_number (numeric : descriptor.isNumeric = true)
    (there : returns[descriptor.field.offset]? = some word)
    (meets : descriptor.mode = .display ∨
      descriptor.expected = .value (descriptor.field.effectiveRange.read word)) :
    (descriptor.toCheck returns).IsClean := by
  have evaluated : descriptor.evaluate returns =
      descriptor.evaluateNumber (descriptor.field.effectiveRange.read word) := by
    unfold isNumeric at numeric
    unfold evaluate
    split <;> rename_i kind
    · simp [kind] at numeric
    · rw [there]
      dsimp only
      rw [if_neg]
      intro reserved
      simp [reserved] at numeric
  simp only [toCheck, evaluated]
  unfold evaluateNumber
  rcases meets with display | expected
  · simp [display]
  · cases mode : descriptor.mode <;> simp [expected]

theorem toCheck_isClean_of_display (numeric : descriptor.isNumeric = true)
    (there : returns[descriptor.field.offset]? = some word)
    (display : descriptor.mode = .display) : (descriptor.toCheck returns).IsClean :=
  toCheck_isClean_of_number numeric there (.inl display)

theorem toCheck_isClean_of_value {value : UInt32} (numeric : descriptor.isNumeric = true)
    (there : returns[descriptor.field.offset]? = some word)
    (expects : descriptor.expected = .value value)
    (same : descriptor.field.effectiveRange.read word = value) :
    (descriptor.toCheck returns).IsClean := by
  apply toCheck_isClean_of_number numeric there
  right
  rw [expects, same]

theorem toCheck_isClean_of_word (numeric : descriptor.isNumeric = true)
    (there : returns[descriptor.field.offset]? = some word)
    (expects : descriptor.expected = .value word)
    (whole : descriptor.field.effectiveRange = .word) : (descriptor.toCheck returns).IsClean := by
  apply toCheck_isClean_of_value numeric there expects
  rw [whole, BitRange.read_word]

theorem toCheck_isClean_of_reserved (field : Field)
    (there : returns[field.offset]? = some word) (clear : field.effectiveRange.read word = 0) :
    ((reserved field).toCheck returns).IsClean := by
  simp [toCheck, evaluate, reserved, there, evaluateReserved, BitRange.strayBits?, clear]

theorem toCheck_isClean_of_text {field : Field} {value : String}
    (same : field.readText? returns = some value) :
    ((checkText field value).toCheck returns).IsClean := by
  simp [toCheck, evaluate, checkText, same, evaluateText]

end Descriptor

def CaseReport.IsClean (report : CaseReport) : Prop :=
  ∀ check ∈ report.checks, check.IsClean

theorem CaseReport.classify_eq_conformant {checks : List Check}
    (clean : ∀ check ∈ checks, check.IsClean) (made : ∃ check ∈ checks, check.outcome ≠ .skip) :
    classify checks = .conformant := by
  have noFailure : ¬∃ check ∈ checks, check.outcome = .failed := by
    rintro ⟨check, member, failed⟩
    exact (clean check member).1 failed
  have noError : ¬∃ check ∈ checks, check.outcome = .error := by
    rintro ⟨check, member, wrong⟩
    exact (clean check member).2 wrong
  unfold classify
  simp only [count_pos_iff, count_skip_lt_iff]
  rw [if_neg noFailure, if_neg noError, if_pos made]

/-- A case of which anything was checked conforms if nothing failed and nothing went wrong. -/
theorem CaseReport.classify_eq_conformant_iff {checks : List Check}
    (made : ∃ check ∈ checks, check.outcome ≠ .skip) :
    classify checks = .conformant ↔
      (¬∃ check ∈ checks, check.outcome = .failed) ∧
        ¬∃ check ∈ checks, check.outcome = .error := by
  constructor
  · intro conforms
    have clean := isClean_of_classify_eq_conformant conforms
    exact ⟨fun ⟨check, member, failed⟩ => (clean check member).1 failed,
      fun ⟨check, member, wrong⟩ => (clean check member).2 wrong⟩
  · rintro ⟨noFailure, noError⟩
    refine classify_eq_conformant (fun check member => ⟨?_, ?_⟩) made
    · exact fun failed => noFailure ⟨check, member, failed⟩
    · exact fun wrong => noError ⟨check, member, wrong⟩

end PlatformAudit
