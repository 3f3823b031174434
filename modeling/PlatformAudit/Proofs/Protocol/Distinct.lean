import PlatformAudit.Protocol.Base.Plan

/-!
# Lists that repeat nothing

Whether a list of protocols repeats one is found by sorting it and by counting what is left without
the entries that are followed by the same one.  That is as much as to say that no protocol stands
twice in it.
-/

namespace PlatformAudit.Base

theorem withoutRuns_of_short {short : List UInt8}
    (more : ∀ first second rest, short = first :: second :: rest → False) :
    withoutRuns short = short := by
  match short, more with
  | [], _ => rfl
  | [_], _ => rfl
  | first :: second :: rest, more => exact absurd rfl (more first second rest)

theorem length_withoutRuns_le (ids : List UInt8) : (withoutRuns ids).length ≤ ids.length := by
  induction ids using withoutRuns.induct with
  | case1 first rest induction =>
      rw [withoutRuns, if_pos rfl]
      exact Nat.le_succ_of_le induction
  | case2 first second rest other induction =>
      rw [withoutRuns, if_neg other]
      exact Nat.succ_le_succ induction
  | case3 short more =>
      exact Nat.le_of_eq (congrArg List.length (withoutRuns_of_short more))

/-- In a sorted list, what stands twice stands side by side. -/
theorem length_withoutRuns_of_sorted {ids : List UInt8} (sorted : ids.Pairwise (· ≤ ·)) :
    (withoutRuns ids).length = ids.length ↔ ids.Nodup := by
  induction ids using withoutRuns.induct with
  | case1 first rest induction =>
      have shorter := length_withoutRuns_le (first :: rest)
      rw [withoutRuns, if_pos rfl]
      constructor
      · intro same
        rw [List.length_cons] at same
        omega
      · intro distinct
        exact absurd List.mem_cons_self (List.nodup_cons.mp distinct).1
  | case2 first second rest other induction =>
      obtain ⟨below, sortedRest⟩ := List.pairwise_cons.mp sorted
      have notLater : first ∉ second :: rest := by
        intro member
        rcases List.mem_cons.mp member with same | later
        · exact other same
        · have above := (List.pairwise_cons.mp sortedRest).1 first later
          exact other (UInt8.le_antisymm (below second List.mem_cons_self) above)
      have distinct : (first :: second :: rest).Nodup ↔ (second :: rest).Nodup :=
        List.nodup_cons.trans (and_iff_right notLater)
      rw [withoutRuns, if_neg other, distinct, ← induction sortedRest]
      exact Nat.succ_inj
  | case3 short more =>
      rw [withoutRuns_of_short more]
      refine iff_of_true rfl ?_
      match short, more with
      | [], _ => exact List.nodup_nil
      | [_], _ => exact List.nodup_cons.mpr ⟨List.not_mem_nil, List.nodup_nil⟩
      | first :: second :: rest, more => exact absurd rfl (more first second rest)

theorem length_withoutRuns_mergeSort (ids : List UInt8) :
    (withoutRuns ids.mergeSort).length = ids.length ↔ ids.Nodup := by
  have sorted : ids.mergeSort.Pairwise (· ≤ ·) := by
    have bySort : ids.mergeSort.Pairwise fun first second => decide (first ≤ second) = true := by
      apply List.pairwise_mergeSort
      · simpa using fun _ _ _ => UInt8.le_trans
      · simpa using UInt8.le_total
    simpa using bySort
  have same := length_withoutRuns_of_sorted sorted
  rwa [List.length_mergeSort, (List.mergeSort_perm ids _).nodup_iff] at same

/-- The list is in order if it repeats nothing and does not name the base protocol. -/
theorem listCheck_eq (found : List UInt8) :
    listCheck found =
      if found.Nodup ∧ Protocol.base ∉ found then
        { name := "protocol ids"
          outcome := .info
          detail := " ".intercalate (found.map fun id => Text.hex id.toNat) }
      else
        { name := "protocol ids"
          outcome := .failed
          detail := "list repeats a protocol or names the base protocol" } := by
  simp only [listCheck, length_withoutRuns_mergeSort]

end PlatformAudit.Base
