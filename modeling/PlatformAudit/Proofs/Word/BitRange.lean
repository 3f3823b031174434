import PlatformAudit.Word.BitRange

/-!
# Reading and writing bit ranges

A range is read and written bit by bit: bit `index` of what is read is bit `lsb + index` of the
word, and a write replaces the bits from `lsb` to `msb` and no others.  From this follows how reads
and writes of several ranges work together.
-/

namespace PlatformAudit.BitRange

variable (range : BitRange) (word value : UInt32) (index : Nat)

theorem width_le : range.width ≤ 32 := by
  have := range.lsb_le_msb
  have := range.msb_le
  unfold width
  omega

private theorem shift_toNat : (BitVec.ofNat 32 range.lsb % 32).toNat = range.lsb := by
  have := range.lsb_le_msb
  have := range.msb_le
  rw [BitVec.toNat_umod, BitVec.toNat_ofNat]
  change range.lsb % 2 ^ 32 % 32 = range.lsb
  omega

theorem ones_eq : ∀ width : Fin 33, ones width = UInt32.ofNat (1 <<< width.val - 1) := by
  decide

theorem maxValue_eq : range.maxValue = UInt32.ofNat (1 <<< range.width - 1) :=
  ones_eq ⟨range.width, Nat.lt_succ_of_le range.width_le⟩

theorem getLsbD_maxValue :
    range.maxValue.toBitVec.getLsbD index = decide (index < range.width) := by
  have bound := range.width_le
  rw [maxValue_eq, UInt32.toBitVec_ofNat', BitVec.getLsbD_ofNat, Nat.one_shiftLeft,
    Nat.testBit_two_pow_sub_one]
  by_cases inside : index < range.width
  · have small : index < 32 := by omega
    simp [inside, small]
  · simp [inside]

theorem getLsbD_shiftLeft_lsb :
    (value <<< UInt32.ofNat range.lsb).toBitVec.getLsbD index =
      (decide (index < 32) && decide (range.lsb ≤ index) &&
        value.toBitVec.getLsbD (index - range.lsb)) := by
  rw [UInt32.toBitVec_shiftLeft, UInt32.toBitVec_ofNat', BitVec.shiftLeft_eq', shift_toNat,
    BitVec.getLsbD_shiftLeft]
  by_cases below : index < range.lsb
  · have notAbove : ¬range.lsb ≤ index := by omega
    simp [below, notAbove]
  · have above : range.lsb ≤ index := by omega
    simp [below, above]

theorem getLsbD_read :
    (range.read word).toBitVec.getLsbD index =
      (decide (index < range.width) && word.toBitVec.getLsbD (range.lsb + index)) := by
  rw [read, UInt32.toBitVec_and, BitVec.getLsbD_and, getLsbD_maxValue, UInt32.toBitVec_shiftRight,
    UInt32.toBitVec_ofNat', BitVec.ushiftRight_eq', shift_toNat, BitVec.getLsbD_ushiftRight,
    Bool.and_comm]

theorem getLsbD_mask :
    range.mask.toBitVec.getLsbD index = decide (range.lsb ≤ index ∧ index ≤ range.msb) := by
  have ordered := range.lsb_le_msb
  have bound := range.msb_le
  rw [mask, getLsbD_shiftLeft_lsb, getLsbD_maxValue]
  unfold width
  by_cases above : range.lsb ≤ index
  · by_cases below : index ≤ range.msb
    · have small : index < 32 := by omega
      have inside : index - range.lsb < range.msb - range.lsb + 1 := by omega
      simp [above, below, small, inside]
    · have outside : ¬index - range.lsb < range.msb - range.lsb + 1 := by omega
      simp [below, outside]
  · simp [above]

theorem getLsbD_overwrite (small : index < 32) :
    (range.overwrite word value).toBitVec.getLsbD index =
      if range.lsb ≤ index ∧ index ≤ range.msb then value.toBitVec.getLsbD (index - range.lsb)
      else word.toBitVec.getLsbD index := by
  rw [overwrite, UInt32.toBitVec_or, BitVec.getLsbD_or, UInt32.toBitVec_and, BitVec.getLsbD_and,
    UInt32.toBitVec_not, BitVec.getLsbD_not, getLsbD_mask, getLsbD_shiftLeft_lsb,
    UInt32.toBitVec_and, BitVec.getLsbD_and, getLsbD_maxValue]
  have ordered := range.lsb_le_msb
  unfold width
  by_cases inside : range.lsb ≤ index ∧ index ≤ range.msb
  · have covered : index - range.lsb < range.msb - range.lsb + 1 := by omega
    simp [inside, small, covered]
  · rw [if_neg inside]
    by_cases above : range.lsb ≤ index
    · have uncovered : ¬index - range.lsb < range.msb - range.lsb + 1 := by omega
      simp [inside, small, uncovered]
    · simp [small, above]

theorem eq_of_bits {first second : UInt32}
    (same : ∀ index < 32, first.toBitVec.getLsbD index = second.toBitVec.getLsbD index) :
    first = second :=
  UInt32.toBitVec_inj.mp (BitVec.eq_of_getLsbD_eq same)

/-- What was written is read, as far as it fits. -/
theorem read_overwrite : range.read (range.overwrite word value) = value &&& range.maxValue := by
  apply eq_of_bits
  intro index small
  have ordered := range.lsb_le_msb
  have bound := range.msb_le
  rw [getLsbD_read, UInt32.toBitVec_and, BitVec.getLsbD_and, getLsbD_maxValue]
  unfold width
  by_cases covered : index < range.msb - range.lsb + 1
  · have inside : range.lsb ≤ range.lsb + index ∧ range.lsb + index ≤ range.msb := by omega
    rw [getLsbD_overwrite _ _ _ _ (by omega), if_pos inside, Nat.add_sub_cancel_left]
    simp [covered]
  · simp [covered]

/-- Two ranges without a common bit. -/
def Apart (range other : BitRange) : Prop :=
  range.msb < other.lsb ∨ other.msb < range.lsb

instance (range other : BitRange) : Decidable (range.Apart other) :=
  inferInstanceAs (Decidable (_ ∨ _))

theorem read_overwrite_of_apart {range other : BitRange} (apart : range.Apart other)
    (word value : UInt32) : range.read (other.overwrite word value) = range.read word := by
  unfold Apart at apart
  apply eq_of_bits
  intro index small
  have ordered := range.lsb_le_msb
  have bound := range.msb_le
  rw [getLsbD_read, getLsbD_read]
  unfold width
  by_cases covered : index < range.msb - range.lsb + 1
  · have outside : ¬(other.lsb ≤ range.lsb + index ∧ range.lsb + index ≤ other.msb) := by omega
    rw [getLsbD_overwrite _ _ _ _ (by omega), if_neg outside]
  · simp [covered]

@[simp] theorem read_zero : range.read 0 = 0 := by
  apply eq_of_bits
  intro index small
  rw [getLsbD_read]
  simp

theorem toNat_maxValue : range.maxValue.toNat = 1 <<< range.width - 1 := by
  have limit : 2 ^ range.width ≤ 2 ^ 32 := Nat.pow_le_pow_right (by decide) range.width_le
  rw [maxValue_eq, UInt32.toNat_ofNat_of_lt']
  rw [Nat.one_shiftLeft]
  change _ < 2 ^ 32
  omega

theorem and_maxValue {value : UInt32} (fits : value ≤ range.maxValue) :
    value &&& range.maxValue = value := by
  have positive : 0 < 2 ^ range.width := Nat.two_pow_pos _
  have small := UInt32.le_iff_toNat_le.mp fits
  rw [toNat_maxValue, Nat.one_shiftLeft] at small
  apply UInt32.toNat_inj.mp
  rw [UInt32.toNat_and, toNat_maxValue, Nat.one_shiftLeft, Nat.and_two_pow_sub_one_eq_mod,
    Nat.mod_eq_of_lt (by omega)]

theorem read_le_maxValue : range.read word ≤ range.maxValue := by
  rw [read, UInt32.le_iff_toNat_le, UInt32.toNat_and]
  exact Nat.and_le_right

theorem read_overwrite_of_fits {value : UInt32} (fits : value ≤ range.maxValue) :
    range.read (range.overwrite word value) = value := by
  rw [read_overwrite, and_maxValue _ fits]

/-- A small number is read as it is by a range that begins at its lowest bit. -/
theorem read_of_fits {value : UInt32} (lowest : range.lsb = 0) (fits : value ≤ range.maxValue) :
    range.read value = value := by
  have unshifted : value >>> UInt32.ofNat 0 = value := by simp
  rw [read, lowest, unshifted, and_maxValue _ fits]

@[simp] theorem read_word (value : UInt32) : BitRange.word.read value = value :=
  read_of_fits _ rfl (UInt32.le_iff_toNat_le.mpr (Nat.le_of_lt_succ value.toNat_lt))

/-- The words with no bits beside a range that begins at the lowest bit are the small numbers. -/
theorem clear_beside_iff {value : UInt32} (lowest : range.lsb = 0) :
    value &&& ~~~range.mask = 0 ↔ value ≤ range.maxValue := by
  have unshifted : range.mask = range.maxValue := by simp [mask, lowest]
  rw [unshifted]
  constructor
  · intro clear
    have inside : value = value &&& range.maxValue := by
      apply eq_of_bits
      intro index small
      have bit := congrArg (·.toBitVec.getLsbD index) clear
      simp only [UInt32.toBitVec_and, UInt32.toBitVec_not, BitVec.getLsbD_and, BitVec.getLsbD_not,
        small, decide_true, Bool.true_and] at bit
      rw [UInt32.toBitVec_and, BitVec.getLsbD_and]
      cases inRange : range.maxValue.toBitVec.getLsbD index with
      | false =>
          rw [inRange] at bit
          simpa using bit
      | true => exact (Bool.and_true _).symm
    rw [inside]
    exact UInt32.le_iff_toNat_le.mpr Nat.and_le_right
  · intro fits
    rw [← and_maxValue range fits, UInt32.and_assoc, UInt32.and_not_self, UInt32.and_zero]

theorem read_of_below {value : UInt32} (below : value.toNat < 1 <<< range.lsb) :
    range.read value = 0 := by
  apply eq_of_bits
  intro index small
  rw [Nat.one_shiftLeft] at below
  have clear : value.toBitVec.getLsbD (range.lsb + index) = false :=
    Nat.testBit_lt_two_pow (Nat.lt_of_lt_of_le below
      (Nat.pow_le_pow_right (by decide) (Nat.le_add_right _ _)))
  rw [getLsbD_read, clear]
  simp

/-- What is read is the word without the bits below the range, cut to the width of the range. -/
theorem toNat_read :
    (range.read word).toNat = word.toNat / (1 <<< range.lsb) % (1 <<< range.width) := by
  have ordered := range.lsb_le_msb
  have bound := range.msb_le
  have lsb : (UInt32.ofNat range.lsb).toNat % 32 = range.lsb := by
    rw [UInt32.toNat_ofNat']
    omega
  rw [read, UInt32.toNat_and, UInt32.toNat_shiftRight, lsb, toNat_maxValue, Nat.one_shiftLeft,
    Nat.one_shiftLeft, Nat.and_two_pow_sub_one_eq_mod, Nat.shiftRight_eq_div_pow]

theorem toNat_read_overwrite :
    (range.read (range.overwrite word value)).toNat = value.toNat % (1 <<< range.width) := by
  rw [read_overwrite, UInt32.toNat_and, toNat_maxValue, Nat.one_shiftLeft,
    Nat.and_two_pow_sub_one_eq_mod]

theorem getLsbD_overwrite_read (source : UInt32) {index : Nat} (small : index < 32) :
    (range.overwrite word (range.read source)).toBitVec.getLsbD index =
      if range.lsb ≤ index ∧ index ≤ range.msb then source.toBitVec.getLsbD index
      else word.toBitVec.getLsbD index := by
  rw [getLsbD_overwrite _ _ _ _ small]
  by_cases inside : range.lsb ≤ index ∧ index ≤ range.msb
  · have covered : index - range.lsb < range.width := by
      unfold width
      omega
    have place : range.lsb + (index - range.lsb) = index := by omega
    rw [if_pos inside, if_pos inside, getLsbD_read, place]
    simp [covered]
  · rw [if_neg inside, if_neg inside]

theorem read_eq_iff :
    range.read word = value ↔
      word.toNat / (1 <<< range.lsb) % (1 <<< (range.msb - range.lsb + 1)) = value.toNat := by
  rw [← UInt32.toNat_inj, toNat_read, width]

/-- Zero is read exactly if no bit of the range is set. -/
theorem read_eq_zero_iff :
    range.read word = 0 ↔
      ∀ index, range.lsb ≤ index → index ≤ range.msb → word.toNat.testBit index = false := by
  have ordered := range.lsb_le_msb
  have bit (index : Nat) : word.toNat.testBit index = word.toBitVec.getLsbD index := rfl
  simp only [bit]
  constructor
  · intro zero index above below
    have clear : (range.read word).toBitVec.getLsbD (index - range.lsb) = false := by
      rw [zero]
      simp
    have covered : index - range.lsb < range.width := by
      unfold width
      omega
    rw [getLsbD_read, Nat.add_sub_cancel' above] at clear
    simpa [covered] using clear
  · intro clear
    apply eq_of_bits
    intro index small
    rw [getLsbD_read]
    by_cases covered : index < range.width
    · rw [clear _ (Nat.le_add_right _ _) (by unfold width at covered; omega)]
      simp
    · simp [covered]

end PlatformAudit.BitRange
