import Mathlib.Algebra.Group.Nat.Defs
import PlatformAudit.Proofs.Word.BitRange

/-!
# Bit ranges as lenses

A checked write succeeds exactly if its value fits, and then it is the write that cuts its value.
So the laws are proved of the second and carried over to the first: what was written is read, what
was read may be written back, the later of two writes into one range counts, and ranges that are
apart do not notice each other.
-/

namespace PlatformAudit.BitRange

variable (range : BitRange) (word value : UInt32)

theorem le_maxValue_iff : value ≤ range.maxValue ↔ value.toNat < 2 ^ range.width := by
  have positive : 0 < 2 ^ range.width := Nat.two_pow_pos _
  rw [UInt32.le_iff_toNat_le, toNat_maxValue, Nat.one_shiftLeft]
  omega

theorem write_eq :
    range.write word value =
      if value.toNat < 2 ^ range.width then .ok (range.overwrite word value)
      else .error (.valueTooWide range value) := by
  by_cases fits : value.toNat < 2 ^ range.width
  · have small := (range.le_maxValue_iff value).mpr fits
    rw [if_pos fits, write, if_neg (UInt32.not_lt.mpr small), overwrite, and_maxValue range small]
  · have large : range.maxValue < value := by
      rwa [← le_maxValue_iff, UInt32.not_le] at fits
    rw [if_neg fits, write, if_pos large]

theorem write_eq_ok_iff {written : UInt32} :
    range.write word value = .ok written ↔
      value.toNat < 2 ^ range.width ∧ range.overwrite word value = written := by
  rw [write_eq]
  by_cases fits : value.toNat < 2 ^ range.width
  · rw [if_pos fits, Except.ok.injEq, and_iff_right fits]
  · rw [if_neg fits]
    exact ⟨nofun, fun both => absurd both.1 fits⟩

/-- One checked write behind another. -/
theorem write_bind_write_eq_ok_iff {range other : BitRange} {first second written : UInt32} :
    (range.write word first).bind (other.write · second) = .ok written ↔
      first.toNat < 2 ^ range.width ∧ second.toNat < 2 ^ other.width ∧
        other.overwrite (range.overwrite word first) second = written := by
  by_cases fits : first.toNat < 2 ^ range.width
  · have accepted := (range.write_eq_ok_iff word first).mpr ⟨fits, rfl⟩
    rw [accepted, and_iff_right fits]
    exact write_eq_ok_iff ..
  · rw [write_eq, if_neg fits]
    exact ⟨nofun, fun all => absurd all.1 fits⟩

theorem testBit_overwrite_of_outside {index : Nat}
    (outside : index < range.lsb ∨ range.msb < index) :
    (range.overwrite word value).toNat.testBit index = word.toNat.testBit index := by
  change (range.overwrite word value).toBitVec.getLsbD index = word.toBitVec.getLsbD index
  by_cases small : index < 32
  · rw [getLsbD_overwrite _ _ _ _ small, if_neg (by omega)]
  · rw [BitVec.getLsbD_of_ge _ _ (Nat.le_of_not_lt small),
      BitVec.getLsbD_of_ge _ _ (Nat.le_of_not_lt small)]

/-- What was read may be written back. -/
theorem overwrite_read : range.overwrite word (range.read word) = word := by
  apply eq_of_bits
  intro index small
  rw [getLsbD_overwrite_read _ _ _ small, ite_self]

theorem overwrite_overwrite (first second : UInt32) :
    range.overwrite (range.overwrite word first) second = range.overwrite word second := by
  apply eq_of_bits
  intro index small
  simp only [getLsbD_overwrite _ _ _ _ small]
  split <;> rfl

theorem isClear_iff : range.isClear word = true ↔ range.read word = 0 := by
  rw [isClear, beq_iff_eq, read_eq_zero_iff]
  constructor
  · intro clear index above below
    have bit := congrArg (·.toBitVec.getLsbD index) clear
    rw [UInt32.toBitVec_and, BitVec.getLsbD_and, getLsbD_mask, decide_eq_true ⟨above, below⟩,
      Bool.and_true] at bit
    exact bit.trans BitVec.getLsbD_zero
  · intro clear
    apply eq_of_bits
    intro index small
    rw [UInt32.toBitVec_and, BitVec.getLsbD_and, getLsbD_mask]
    by_cases inside : range.lsb ≤ index ∧ index ≤ range.msb
    · have zero : word.toBitVec.getLsbD index = false := clear index inside.1 inside.2
      simp [zero]
    · simp [inside]

theorem overwrite_comm {range other : BitRange} (apart : range.Apart other)
    (first second : UInt32) :
    other.overwrite (range.overwrite word first) second =
      range.overwrite (other.overwrite word second) first := by
  unfold Apart at apart
  apply eq_of_bits
  intro index small
  simp only [getLsbD_overwrite _ _ _ _ small]
  split
  · rw [if_neg (by omega)]
  · rfl

/-! ### The laws -/

/-- How reads and writes of one range work together. -/
structure IsLens (range : BitRange) : Prop where
  reads : ∀ word, (range.read word).toNat =
    word.toNat / 2 ^ range.lsb % 2 ^ (range.msb - range.lsb + 1)
  -- Writes that are refused if the value is too wide.
  accepts : ∀ word value, (∃ written, range.write word value = .ok written) ↔
    value.toNat < 2 ^ (range.msb - range.lsb + 1)
  readsWritten : ∀ word value written, range.write word value = .ok written →
    range.read written = value
  keepsOthers : ∀ word value written, range.write word value = .ok written →
    ∀ index, index < range.lsb ∨ range.msb < index →
      written.toNat.testBit index = word.toNat.testBit index
  cutsNothing : ∀ word value written, range.write word value = .ok written →
    range.overwrite word value = written
  -- Writes that cut the value.
  readsCut : ∀ word value, (range.read (range.overwrite word value)).toNat =
    value.toNat % 2 ^ (range.msb - range.lsb + 1)
  -- Writes of what was read, and one write after another.
  writesBack : ∀ word, range.write word (range.read word) = .ok word
  laterCounts : ∀ word first second written, range.write word first = .ok written →
    range.write written second = range.write word second
  laterCutCounts : ∀ word first second,
    range.overwrite (range.overwrite word first) second = range.overwrite word second
  -- Bits that should be zero.
  clear : ∀ word, range.isClear word = true ↔ range.read word = 0
  notStray : ∀ word, range.strayBits? word = none ↔ range.read word = 0
  stray : ∀ word bits, range.strayBits? word = some bits ↔ bits = range.read word ∧ bits ≠ 0

/-- Two ranges that may be written in any order, and the first of which is read as if the other had
not been written. -/
structure Independent (range other : BitRange) : Prop where
  commutes : ∀ word first second written,
    (range.write word first).bind (other.write · second) = .ok written ↔
      (other.write word second).bind (range.write · first) = .ok written
  commutesCut : ∀ word first second,
    other.overwrite (range.overwrite word first) second =
      range.overwrite (other.overwrite word second) first
  undisturbed : ∀ word value written, other.write word value = .ok written →
    range.read written = range.read word
  undisturbedCut : ∀ word value, range.read (other.overwrite word value) = range.read word

theorem isLens : range.IsLens where
  reads word := by
    rw [toNat_read, Nat.one_shiftLeft, Nat.one_shiftLeft, width]
  accepts word value := by
    simp [write_eq_ok_iff, width]
  readsWritten word value written accepted := by
    obtain ⟨fits, rfl⟩ := (write_eq_ok_iff ..).mp accepted
    exact read_overwrite_of_fits _ _ ((le_maxValue_iff ..).mpr fits)
  keepsOthers word value written accepted index outside := by
    obtain ⟨-, rfl⟩ := (write_eq_ok_iff ..).mp accepted
    exact testBit_overwrite_of_outside _ _ _ outside
  cutsNothing word value written accepted :=
    ((write_eq_ok_iff ..).mp accepted).2
  readsCut word value := by
    rw [toNat_read_overwrite, Nat.one_shiftLeft, width]
  writesBack word := by
    rw [write_eq_ok_iff, ← le_maxValue_iff]
    exact ⟨range.read_le_maxValue word, range.overwrite_read word⟩
  laterCounts word first second written accepted := by
    obtain ⟨-, rfl⟩ := (write_eq_ok_iff ..).mp accepted
    rw [write_eq, write_eq, overwrite_overwrite]
  laterCutCounts := range.overwrite_overwrite
  clear := range.isClear_iff
  notStray word := by
    simp [strayBits?]
  stray word bits := by
    unfold strayBits?
    grind

theorem Apart.independent {range other : BitRange} (apart : range.Apart other) :
    range.Independent other where
  commutes word first second written := by
    rw [write_bind_write_eq_ok_iff, write_bind_write_eq_ok_iff, overwrite_comm _ apart]
    exact and_left_comm
  commutesCut word := overwrite_comm word apart
  undisturbed word value written accepted := by
    obtain ⟨-, rfl⟩ := (write_eq_ok_iff ..).mp accepted
    exact read_overwrite_of_apart apart _ _
  undisturbedCut word value := read_overwrite_of_apart apart _ _

/-- The ranges that are accepted are the ranges that there are. -/
theorem ofBounds_eq_ok_iff {msb lsb : Nat} :
    ofBounds msb lsb = .ok range ↔ range.msb = msb ∧ range.lsb = lsb := by
  constructor
  · intro accepted
    unfold ofBounds at accepted
    split at accepted
    · cases accepted
      exact ⟨rfl, rfl⟩
    · cases accepted
  · rintro ⟨rfl, rfl⟩
    exact dif_pos ⟨range.lsb_le_msb, range.msb_le⟩

/-- Bounds are accepted exactly if they are in order and inside the word, and the range that they
make is a lens, independent of every range that is apart from it. -/
theorem ofBounds_lawful (msb lsb : Nat) :
    ((∃ range, ofBounds msb lsb = .ok range) ↔ lsb ≤ msb ∧ msb ≤ 31) ∧
      ∀ range, ofBounds msb lsb = .ok range →
        range.msb = msb ∧ range.lsb = lsb ∧ range.IsLens ∧
          ∀ other, range.Apart other → range.Independent other := by
  constructor
  · constructor
    · rintro ⟨range, accepted⟩
      obtain ⟨rfl, rfl⟩ := (ofBounds_eq_ok_iff range).mp accepted
      exact ⟨range.lsb_le_msb, range.msb_le⟩
    · intro inside
      exact ⟨_, dif_pos inside⟩
  · intro range accepted
    obtain ⟨highest, lowest⟩ := (ofBounds_eq_ok_iff range).mp accepted
    exact ⟨highest, lowest, range.isLens, fun other => Apart.independent⟩

/-- The second byte of a word is written, and then the upper half of the word. -/
theorem ofBounds_lawful_byte :
    let byte : BitRange := { msb := 15, lsb := 8 }
    let half : BitRange := { msb := 31, lsb := 16 }
    ofBounds 15 8 = .ok byte ∧ byte.Apart half ∧
      byte.write 0xFFFFFFFF 0x12 = .ok 0xFFFF12FF ∧ byte.read 0xFFFF12FF = 0x12 ∧
      half.write 0xFFFF12FF 0x34 = .ok 0x003412FF ∧ byte.read 0x003412FF = 0x12 := by
  intro byte half
  have accepted : ofBounds 15 8 = .ok byte := rfl
  have apart : byte.Apart half := by decide
  have first : byte.write 0xFFFFFFFF 0x12 = .ok 0xFFFF12FF := by cbv
  have second : half.write 0xFFFF12FF 0x34 = .ok 0x003412FF := by cbv
  obtain ⟨-, -, lens, independent⟩ := (ofBounds_lawful 15 8).2 byte accepted
  have read := lens.readsWritten _ _ _ first
  have undisturbed := (independent half apart).undisturbed _ _ _ second
  exact ⟨accepted, apart, first, read, second, undisturbed.trans read⟩

end PlatformAudit.BitRange
