import Mathlib.Algebra.Group.Defs
import PlatformAudit.Report.Counter

/-!
# Counters as numbers

Every counter is the counter of some number, and sums of counters are those of the numbers.  So
counters may be added up in any order, whether they have run over or not.
-/

namespace PlatformAudit.Counter

theorem zero_eq_ofNat : (0 : Counter) = ofNat 0 :=
  rfl

theorem one_eq_ofNat : (1 : Counter) = ofNat 1 :=
  rfl

theorem word?_add (first second : Counter) :
    (first + second).word? =
      first.word?.bind fun ahead => second.word?.bind fun behind => Word.add? ahead behind :=
  rfl

theorem exists_eq_ofNat (counter : Counter) : ∃ count, counter = ofNat count := by
  obtain ⟨word?⟩ := counter
  cases word? with
  | none => exact ⟨UInt32.size, by simp [ofNat]⟩
  | some word => exact ⟨word.toNat, by simp [ofNat, word.toNat_lt_size]⟩

theorem ofNat_add (first second : Nat) : ofNat (first + second) = ofNat first + ofNat second := by
  rw [Counter.mk.injEq, word?_add]
  unfold ofNat
  by_cases ahead : first < UInt32.size
  · by_cases behind : second < UInt32.size
    · have toNatAhead : (UInt32.ofNat first).toNat = first := UInt32.toNat_ofNat_of_lt' ahead
      have toNatBehind : (UInt32.ofNat second).toNat = second := UInt32.toNat_ofNat_of_lt' behind
      simp [ahead, behind, Word.add?, toNatAhead, toNatBehind]
    · have beyond : ¬first + second < UInt32.size := by omega
      simp [behind, beyond]
  · have beyond : ¬first + second < UInt32.size := by omega
    simp [ahead, beyond]

@[simp] theorem ofNat_eq_zero_iff (count : Nat) : ofNat count = 0 ↔ count = 0 := by
  rw [zero_eq_ofNat]
  by_cases fits : count < UInt32.size
  · simp only [ofNat, fits, Counter.mk.injEq, if_true, UInt32.size, Nat.reduceLT,
      Option.some.injEq]
    rw [← UInt32.toNat_inj, UInt32.toNat_ofNat_of_lt' fits]
    rfl
  · constructor
    · simp [ofNat, fits]
    · rintro rfl
      exact absurd (by decide) fits

instance : AddCommMonoid Counter where
  add_assoc first second third := by
    obtain ⟨first, rfl⟩ := first.exists_eq_ofNat
    obtain ⟨second, rfl⟩ := second.exists_eq_ofNat
    obtain ⟨third, rfl⟩ := third.exists_eq_ofNat
    simp only [← ofNat_add, Nat.add_assoc]
  zero_add counter := by
    obtain ⟨count, rfl⟩ := counter.exists_eq_ofNat
    rw [zero_eq_ofNat, ← ofNat_add, Nat.zero_add]
  add_zero counter := by
    obtain ⟨count, rfl⟩ := counter.exists_eq_ofNat
    rw [zero_eq_ofNat, ← ofNat_add, Nat.add_zero]
  add_comm first second := by
    obtain ⟨first, rfl⟩ := first.exists_eq_ofNat
    obtain ⟨second, rfl⟩ := second.exists_eq_ofNat
    rw [← ofNat_add, Nat.add_comm, ofNat_add]
  nsmul := nsmulRec

/-- A counter that has run over stands for something that was counted. -/
@[simp] theorem add_eq_zero_iff (first second : Counter) :
    first + second = 0 ↔ first = 0 ∧ second = 0 := by
  obtain ⟨first, rfl⟩ := first.exists_eq_ofNat
  obtain ⟨second, rfl⟩ := second.exists_eq_ofNat
  rw [← ofNat_add, ofNat_eq_zero_iff, ofNat_eq_zero_iff, ofNat_eq_zero_iff, Nat.add_eq_zero_iff]

@[simp] theorem one_ne_zero : (1 : Counter) ≠ 0 := by
  simp [one_eq_ofNat]

end PlatformAudit.Counter
