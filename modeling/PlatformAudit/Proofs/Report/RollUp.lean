import PlatformAudit.Report.Records
import PlatformAudit.Proofs.Report.Counters
import Mathlib.Algebra.BigOperators.Group.List.Basic

/-!
# Rolling verdicts up

The verdict of a suite or of a protocol comes from a scan over its members that may end early, and
its tally from counters.  The scan depends on the set of the members only (`Verdict.worst_eq`), and
`Verdict.Summarizes` is how a verdict follows from the tally and the cases underneath.
`RunReport.Recorded.isClean_iff` leads from the totals of a run down to its checks.
-/

namespace PlatformAudit

namespace Verdict

/-- What a scan has come to so far is one of three, and decides only if nothing worse follows. -/
theorem scan_eq (found : Verdict) (members : List Verdict)
    (sofar : found = untested ∨ found = conformant ∨ found = undefined) :
    scan found members =
      if nonConformant ∈ members then nonConformant
      else if found = undefined ∨ undefined ∈ members then undefined
      else if found = conformant ∨ conformant ∈ members then conformant
      else untested := by
  induction members generalizing found with
  | nil => rcases sofar with rfl | rfl | rfl <;> simp [scan]
  | cons member rest induction =>
      cases member with
      | nonConformant => simp [scan]
      | undefined => simp [scan, induction]
      | conformant =>
          rcases sofar with rfl | rfl | rfl
          · simp [scan, induction]
          · simp [scan, induction]
          · simp [scan, induction]
      | _ => simp [scan, induction found sofar]

/-- The early end of the scan and the order of the members do not show. -/
theorem worst_eq (members : List Verdict) :
    worst members =
      if nonConformant ∈ members then nonConformant
      else if undefined ∈ members then undefined
      else if conformant ∈ members then conformant
      else untested := by
  rw [worst, scan_eq untested members (.inl rfl)]
  simp

theorem worst_eq_nonConformant_iff (members : List Verdict) :
    worst members = nonConformant ↔ nonConformant ∈ members := by
  rw [worst_eq]
  split <;> rename_i found
  · simp [found]
  · split
    · simp [found]
    · split <;> simp [found]

theorem worst_eq_undefined_iff (members : List Verdict) :
    worst members = undefined ↔ nonConformant ∉ members ∧ undefined ∈ members := by
  rw [worst_eq]
  split <;> rename_i found
  · simp [found]
  · split <;> rename_i second
    · simp [found, second]
    · split <;> simp [second]

theorem worst_eq_conformant_iff (members : List Verdict) :
    worst members = conformant ↔
      nonConformant ∉ members ∧ undefined ∉ members ∧ conformant ∈ members := by
  rw [worst_eq]
  split <;> rename_i found
  · simp [found]
  · split <;> rename_i second
    · simp [second]
    · split <;> rename_i third
      · simp [found, second, third]
      · simp [third]

theorem worst_eq_untested_iff (members : List Verdict) :
    worst members = untested ↔
      nonConformant ∉ members ∧ undefined ∉ members ∧ conformant ∉ members := by
  rw [worst_eq]
  split <;> rename_i found
  · simp [found]
  · split <;> rename_i second
    · simp [second]
    · split <;> rename_i third
      · simp [third]
      · simp [found, second, third]

/-- Only the set of the members counts. -/
theorem worst_congr {first second : List Verdict}
    (same : ∀ verdict, verdict ∈ first ↔ verdict ∈ second) : worst first = worst second := by
  simp only [worst_eq, same]

theorem worst_map_worst (groups : List (List Verdict)) :
    worst (groups.map worst) = worst groups.flatten := by
  -- An error or a conforming case shows in its group only if nothing worse is in that group.
  have nonConformantIff :
      nonConformant ∈ groups.map worst ↔ nonConformant ∈ groups.flatten := by
    simp [worst_eq_nonConformant_iff]
  by_cases failing : nonConformant ∈ groups.flatten
  · rw [(worst_eq_nonConformant_iff _).mpr (nonConformantIff.mpr failing),
      (worst_eq_nonConformant_iff _).mpr failing]
  · have noneFailing : ∀ group ∈ groups, nonConformant ∉ group := by
      intro group member inside
      exact failing (List.mem_flatten.mpr ⟨group, member, inside⟩)
    have undefinedIff : undefined ∈ groups.map worst ↔ undefined ∈ groups.flatten := by
      simp only [List.mem_map, worst_eq_undefined_iff, List.mem_flatten]
      constructor
      · rintro ⟨group, member, _, inside⟩
        exact ⟨group, member, inside⟩
      · rintro ⟨group, member, inside⟩
        exact ⟨group, member, noneFailing group member, inside⟩
    by_cases erring : undefined ∈ groups.flatten
    · rw [(worst_eq_undefined_iff _).mpr ⟨mt nonConformantIff.mp failing, undefinedIff.mpr erring⟩,
        (worst_eq_undefined_iff _).mpr ⟨failing, erring⟩]
    · have noneErring : ∀ group ∈ groups, undefined ∉ group := by
        intro group member inside
        exact erring (List.mem_flatten.mpr ⟨group, member, inside⟩)
      have conformantIff : conformant ∈ groups.map worst ↔ conformant ∈ groups.flatten := by
        simp only [List.mem_map, worst_eq_conformant_iff, List.mem_flatten]
        constructor
        · rintro ⟨group, member, _, _, inside⟩
          exact ⟨group, member, inside⟩
        · rintro ⟨group, member, inside⟩
          exact ⟨group, member, noneFailing group member, noneErring group member, inside⟩
      simp only [worst_eq, nonConformantIff, undefinedIff, conformantIff]

end Verdict

namespace Tally

instance : Zero Tally where
  zero := {}

instance : AddCommMonoid Tally where
  add_assoc _ _ _ := by
    change Tally.mk _ _ _ _ = Tally.mk _ _ _ _
    simp only [Tally.mk.injEq]
    exact ⟨add_assoc _ _ _, add_assoc _ _ _, add_assoc _ _ _, add_assoc _ _ _⟩
  zero_add tally := by
    cases tally
    change Tally.mk _ _ _ _ = Tally.mk _ _ _ _
    simp only [Tally.mk.injEq]
    exact ⟨zero_add _, zero_add _, zero_add _, zero_add _⟩
  add_zero tally := by
    cases tally
    change Tally.mk _ _ _ _ = Tally.mk _ _ _ _
    simp only [Tally.mk.injEq]
    exact ⟨add_zero _, add_zero _, add_zero _, add_zero _⟩
  add_comm _ _ := by
    change Tally.mk _ _ _ _ = Tally.mk _ _ _ _
    simp only [Tally.mk.injEq]
    exact ⟨add_comm _ _, add_comm _ _, add_comm _ _, add_comm _ _⟩
  nsmul := nsmulRec

@[simp] theorem failures_zero : (0 : Tally).failures = 0 :=
  rfl

@[simp] theorem errors_zero : (0 : Tally).errors = 0 :=
  rfl

@[simp] theorem tests_add (first second : Tally) :
    (first + second).tests = first.tests + second.tests :=
  rfl

@[simp] theorem failures_add (first second : Tally) :
    (first + second).failures = first.failures + second.failures :=
  rfl

@[simp] theorem errors_add (first second : Tally) :
    (first + second).errors = first.errors + second.errors :=
  rfl

@[simp] theorem skips_add (first second : Tally) :
    (first + second).skips = first.skips + second.skips :=
  rfl

theorem isClean_iff (tally : Tally) :
    tally.isClean = true ↔ tally.failures = 0 ∧ tally.errors = 0 := by
  simp [isClean]

theorem failures_sum_eq_zero_iff (tallies : List Tally) :
    tallies.sum.failures = 0 ↔ ∀ tally ∈ tallies, tally.failures = 0 := by
  induction tallies with
  | nil => simp
  | cons tally tallies induction => simp [induction]

theorem errors_sum_eq_zero_iff (tallies : List Tally) :
    tallies.sum.errors = 0 ↔ ∀ tally ∈ tallies, tally.errors = 0 := by
  induction tallies with
  | nil => simp
  | cons tally tallies induction => simp [induction]

end Tally

def Check.IsClean (check : Check) : Prop :=
  check.outcome ≠ .failed ∧ check.outcome ≠ .error

namespace CaseReport

/-- The verdict of the report is the one that its checks give. -/
def IsFinished (report : CaseReport) : Prop :=
  report.verdict = report.current

theorem finish_isFinished (report : CaseReport) : report.finish.IsFinished :=
  rfl

theorem count_pos_iff (checks : List Check) (outcome : Verdict) :
    0 < count checks outcome ↔ ∃ check ∈ checks, check.outcome = outcome := by
  simp [count, List.countP_pos_iff]

theorem count_skip_lt_iff (checks : List Check) :
    checks ≠ [] ∧ count checks .skip < checks.length ↔ ∃ check ∈ checks, check.outcome ≠ .skip := by
  have all : count checks .skip = checks.length ↔ ∀ check ∈ checks, check.outcome = .skip := by
    simp [count, List.countP_eq_length]
  have atMost : count checks .skip ≤ checks.length := List.countP_le_length
  constructor
  · rintro ⟨-, fewer⟩
    by_contra none
    push Not at none
    exact absurd (all.mpr none) (Nat.ne_of_lt fewer)
  · rintro ⟨check, member, made⟩
    refine ⟨List.ne_nil_of_mem member, Nat.lt_of_le_of_ne atMost fun same => ?_⟩
    exact made (all.mp same check member)

theorem classify_eq_nonConformant_iff (checks : List Check) :
    classify checks = .nonConformant ↔ ∃ check ∈ checks, check.outcome = .failed := by
  unfold classify
  simp only [count_pos_iff, count_skip_lt_iff]
  split <;> rename_i found
  · simpa using found
  · split
    · simp [found]
    · split <;> simp [found]

theorem classify_eq_undefined_iff (checks : List Check) :
    classify checks = .undefined ↔
      (¬∃ check ∈ checks, check.outcome = .failed) ∧ ∃ check ∈ checks, check.outcome = .error := by
  unfold classify
  simp only [count_pos_iff, count_skip_lt_iff]
  split <;> rename_i found
  · simp [found]
  · split <;> rename_i second
    · simp [found, second]
    · split <;> simp [second]

theorem isClean_of_classify_eq_conformant {checks : List Check}
    (conforms : classify checks = .conformant) : ∀ check ∈ checks, check.IsClean := by
  have noFailure : ¬∃ check ∈ checks, check.outcome = .failed := by
    rw [← classify_eq_nonConformant_iff, conforms]
    exact Verdict.noConfusion
  have noError : ¬∃ check ∈ checks, check.outcome = .error := fun wrong => by
    have undefined := (classify_eq_undefined_iff checks).mpr ⟨noFailure, wrong⟩
    cases conforms.symm.trans undefined
  exact fun check member =>
    ⟨fun failed => noFailure ⟨check, member, failed⟩, fun wrong => noError ⟨check, member, wrong⟩⟩

theorem classify_cases (checks : List Check) :
    classify checks = .nonConformant ∨ classify checks = .undefined ∨
      classify checks = .conformant ∨ classify checks = .untested := by
  unfold classify
  split
  · simp
  · split
    · simp
    · split <;> simp

namespace IsFinished

variable {report : CaseReport}

theorem failures_eq_zero_iff (finished : report.IsFinished) :
    (Tally.ofCase report.verdict).failures = 0 ↔ report.verdict ≠ .nonConformant := by
  rw [finished, current]
  rcases classify_cases report.checks with verdict | verdict | verdict | verdict <;>
    simp [verdict, Tally.ofCase]

theorem errors_eq_zero_iff (finished : report.IsFinished) :
    (Tally.ofCase report.verdict).errors = 0 ↔ report.verdict ≠ .undefined := by
  rw [finished, current]
  rcases classify_cases report.checks with verdict | verdict | verdict | verdict <;>
    simp [verdict, Tally.ofCase]

/-- A finished case counts neither as a failure nor as an error if all its checks are clean. -/
theorem isClean_iff (finished : report.IsFinished) :
    report.verdict ≠ .nonConformant ∧ report.verdict ≠ .undefined ↔
      ∀ check ∈ report.checks, check.IsClean := by
  rw [finished, current, Ne, Ne, classify_eq_nonConformant_iff, classify_eq_undefined_iff]
  constructor
  · rintro ⟨noFailure, noError⟩ check member
    refine ⟨fun failed => noFailure ⟨check, member, failed⟩, fun wrong => ?_⟩
    exact noError ⟨noFailure, check, member, wrong⟩
  · intro clean
    constructor
    · rintro ⟨check, member, failed⟩
      exact (clean check member).1 failed
    · rintro ⟨-, check, member, wrong⟩
      exact (clean check member).2 wrong

end IsFinished

end CaseReport

namespace Verdict

/-- A verdict follows from the tally of a group and from the cases in it.  A failure decides, else
an error does, else a case that conforms. -/
structure Summarizes (verdict : Verdict) (tally : Tally) (cases : List CaseReport) : Prop where
  nonConformant_iff : verdict = nonConformant ↔ tally.failures ≠ 0
  undefined_iff : verdict = undefined ↔ tally.failures = 0 ∧ tally.errors ≠ 0
  conformant_iff :
    verdict = conformant ↔
      (tally.failures = 0 ∧ tally.errors = 0) ∧ ∃ case ∈ cases, case.verdict = conformant
  untested_iff :
    verdict = untested ↔
      (tally.failures = 0 ∧ tally.errors = 0) ∧ ¬∃ case ∈ cases, case.verdict = conformant

/-- The worst of the verdicts of finished cases follows from their tally. -/
theorem worst_summarizes {cases : List CaseReport} {tally : Tally}
    (failures : tally.failures = 0 ↔ ∀ case ∈ cases, case.verdict ≠ nonConformant)
    (errors : tally.errors = 0 ↔ ∀ case ∈ cases, case.verdict ≠ undefined) :
    Summarizes (worst (cases.map (·.verdict))) tally cases := by
  have noneFailing : nonConformant ∉ cases.map (·.verdict) ↔ tally.failures = 0 := by
    simp [failures]
  have noneErring : undefined ∉ cases.map (·.verdict) ↔ tally.errors = 0 := by
    simp [errors]
  have someConformant : conformant ∈ cases.map (·.verdict) ↔
      ∃ case ∈ cases, case.verdict = conformant := by
    simp
  constructor
  · rw [worst_eq_nonConformant_iff, Ne, ← noneFailing, not_not]
  · rw [worst_eq_undefined_iff, noneFailing, Ne, ← noneErring, not_not]
  · rw [worst_eq_conformant_iff, noneFailing, noneErring, someConformant, and_assoc]
  · rw [worst_eq_untested_iff, noneFailing, noneErring, someConformant, and_assoc]

end Verdict

namespace SuiteReport

theorem foldl_push (cases : List CaseReport) (report : SuiteReport) :
    cases.foldl push report =
      { report with
        cases := report.cases ++ cases
        tally := report.tally + (cases.map fun case => Tally.ofCase case.verdict).sum } := by
  induction cases generalizing report with
  | nil => simp
  | cons case cases induction =>
      rw [List.foldl_cons, induction]
      simp [push, Tally.withCase, add_assoc]

theorem ofCases_eq (name : String) (cases : List CaseReport) :
    ofCases name cases =
      { name
        cases
        tally := (cases.map fun case => Tally.ofCase case.verdict).sum
        verdict := .worst (cases.map (·.verdict)) } := by
  unfold ofCases
  rw [foldl_push]
  have fromZero (tally : Tally) : {} + tally = tally := zero_add tally
  simp [finish, fromZero]

/-- The order of its cases does not matter for a suite. -/
theorem ofCases_perm (name : String) {first second : List CaseReport}
    (permutation : first.Perm second) :
    (ofCases name first).verdict = (ofCases name second).verdict ∧
      (ofCases name first).tally = (ofCases name second).tally := by
  simp only [ofCases_eq]
  refine ⟨Verdict.worst_congr fun verdict => ?_, (permutation.map _).sum_eq⟩
  exact (permutation.map _).mem_iff

/-- Reports of suites as a run makes them: left out, or put together from finished cases. -/
inductive Recorded : SuiteReport → Prop where
  | skipped (name : String) : Recorded (.ofSkipped name)
  | ran (name : String) {cases : List CaseReport}
      (finished : ∀ case ∈ cases, case.IsFinished) : Recorded (.ofCases name cases)

namespace Recorded

variable {report : SuiteReport}

theorem cases_finished (recorded : report.Recorded) :
    ∀ case ∈ report.cases, case.IsFinished := by
  cases recorded with
  | skipped name => simp [ofSkipped]
  | ran name finished => simpa [ofCases_eq] using finished

theorem failures_eq_zero_iff (recorded : report.Recorded) :
    report.tally.failures = 0 ↔ ∀ case ∈ report.cases, case.verdict ≠ .nonConformant := by
  cases recorded with
  | skipped name => simp [ofSkipped, Tally.ofSkippedSuite]
  | ran name finished =>
      simp only [ofCases_eq, Tally.failures_sum_eq_zero_iff, List.forall_mem_map]
      exact forall₂_congr fun case member => (finished case member).failures_eq_zero_iff

theorem errors_eq_zero_iff (recorded : report.Recorded) :
    report.tally.errors = 0 ↔ ∀ case ∈ report.cases, case.verdict ≠ .undefined := by
  cases recorded with
  | skipped name => simp [ofSkipped, Tally.ofSkippedSuite]
  | ran name finished =>
      simp only [ofCases_eq, Tally.errors_sum_eq_zero_iff, List.forall_mem_map]
      exact forall₂_congr fun case member => (finished case member).errors_eq_zero_iff

theorem cases_of_skipped (recorded : report.Recorded) (skipped : report.skipped = true) :
    report.cases = [] := by
  cases recorded with
  | skipped name => rfl
  | ran name finished => simp [ofCases_eq] at skipped

/-- A suite that ran is put together from its cases. -/
theorem eq_ofCases (recorded : report.Recorded) (ran : report.skipped = false) :
    report = .ofCases report.name report.cases := by
  cases recorded with
  | skipped name => simp [ofSkipped] at ran
  | ran name finished => simp [ofCases_eq]

theorem verdict_eq_worst (recorded : report.Recorded) (ran : report.skipped = false) :
    report.verdict = .worst (report.cases.map (·.verdict)) := by
  rw [recorded.eq_ofCases ran, ofCases_eq]

theorem summarizes (recorded : report.Recorded) (ran : report.skipped = false) :
    report.verdict.Summarizes report.tally report.cases := by
  rw [recorded.verdict_eq_worst ran]
  exact Verdict.worst_summarizes recorded.failures_eq_zero_iff recorded.errors_eq_zero_iff

end Recorded

theorem flatMap_cases_ran {suites : List SuiteReport}
    (recorded : ∀ suite ∈ suites, suite.Recorded) :
    (suites.filter (!·.skipped)).flatMap (·.cases) = suites.flatMap (·.cases) := by
  induction suites with
  | nil => rfl
  | cons suite suites induction =>
      have ofRest := induction fun other member => recorded other (List.mem_cons_of_mem _ member)
      rw [List.flatMap_cons, List.filter_cons]
      cases skipped : suite.skipped with
      | true => simp [(recorded suite List.mem_cons_self).cases_of_skipped skipped, ofRest]
      | false => simp [ofRest]

end SuiteReport

namespace ProtocolReport

def cases (report : ProtocolReport) : List CaseReport :=
  report.suites.flatMap (·.cases)

theorem foldl_push (suites : List SuiteReport) (report : ProtocolReport) :
    suites.foldl push report =
      { report with
        suites := report.suites ++ suites
        tally := report.tally + (suites.map (·.tally)).sum } := by
  induction suites generalizing report with
  | nil => simp
  | cons suite suites induction =>
      rw [List.foldl_cons, induction]
      simp [push, add_assoc]

theorem ofSuites_eq (name : String) (protocol : UInt8) (suites : List SuiteReport) :
    ofSuites name protocol suites =
      { name
        protocol
        suites
        tally := (suites.map (·.tally)).sum
        verdict := .worst ((suites.filter (!·.skipped)).map (·.verdict)) } := by
  unfold ofSuites
  rw [foldl_push]
  have fromZero (tally : Tally) : {} + tally = tally := zero_add tally
  simp [finish, fromZero]

theorem ofSuites_perm (name : String) (protocol : UInt8) {first second : List SuiteReport}
    (permutation : first.Perm second) :
    (ofSuites name protocol first).verdict = (ofSuites name protocol second).verdict ∧
      (ofSuites name protocol first).tally = (ofSuites name protocol second).tally := by
  simp only [ofSuites_eq]
  refine ⟨Verdict.worst_congr fun verdict => ?_, (permutation.map _).sum_eq⟩
  exact ((permutation.filter _).map _).mem_iff

/-- Reports of protocols as a run makes them: put together from recorded suites. -/
inductive Recorded : ProtocolReport → Prop where
  | ofSuites (name : String) (protocol : UInt8) {suites : List SuiteReport}
      (recorded : ∀ suite ∈ suites, suite.Recorded) :
      Recorded (.ofSuites name protocol suites)

namespace Recorded

variable {report : ProtocolReport}

theorem suites_recorded (recorded : report.Recorded) :
    ∀ suite ∈ report.suites, suite.Recorded := by
  cases recorded with
  | ofSuites name protocol recorded => simpa [ofSuites_eq] using recorded

theorem eq_ofSuites (recorded : report.Recorded) :
    report = .ofSuites report.name report.protocol report.suites := by
  cases recorded with
  | ofSuites name protocol recorded => simp [ofSuites_eq]

theorem failures_eq_zero_iff (recorded : report.Recorded) :
    report.tally.failures = 0 ↔ ∀ case ∈ report.cases, case.verdict ≠ .nonConformant := by
  have suites := recorded.suites_recorded
  rw [recorded.eq_ofSuites, ofSuites_eq]
  simp only [Tally.failures_sum_eq_zero_iff, List.forall_mem_map, cases, List.forall_mem_flatMap]
  exact forall₂_congr fun suite member => (suites suite member).failures_eq_zero_iff

theorem errors_eq_zero_iff (recorded : report.Recorded) :
    report.tally.errors = 0 ↔ ∀ case ∈ report.cases, case.verdict ≠ .undefined := by
  have suites := recorded.suites_recorded
  rw [recorded.eq_ofSuites, ofSuites_eq]
  simp only [Tally.errors_sum_eq_zero_iff, List.forall_mem_map, cases, List.forall_mem_flatMap]
  exact forall₂_congr fun suite member => (suites suite member).errors_eq_zero_iff

/-- The verdict on a protocol is the worst of the verdicts on its cases. -/
theorem verdict_eq_worst (recorded : report.Recorded) :
    report.verdict = .worst (report.cases.map (·.verdict)) := by
  have ofSuite : ∀ suite ∈ report.suites.filter (!·.skipped),
      suite.verdict = .worst (suite.cases.map (·.verdict)) := by
    intro suite member
    obtain ⟨member, ran⟩ := List.mem_filter.mp member
    exact (recorded.suites_recorded suite member).verdict_eq_worst (by simpa using ran)
  calc
    report.verdict = .worst ((report.suites.filter (!·.skipped)).map (·.verdict)) := by
      rw [recorded.eq_ofSuites, ofSuites_eq]
    _ = .worst (((report.suites.filter (!·.skipped)).map
          fun suite => suite.cases.map (·.verdict)).map .worst) := by
      rw [List.map_congr_left ofSuite, List.map_map]
      rfl
    _ = .worst (report.cases.map (·.verdict)) := by
      rw [Verdict.worst_map_worst, ← List.flatMap_def, ← List.map_flatMap,
        SuiteReport.flatMap_cases_ran recorded.suites_recorded, cases]

theorem summarizes (recorded : report.Recorded) :
    report.verdict.Summarizes report.tally report.cases := by
  rw [recorded.verdict_eq_worst]
  exact Verdict.worst_summarizes recorded.failures_eq_zero_iff recorded.errors_eq_zero_iff

/-- The tally of a protocol is clean if all checks of all cases are, suite by suite. -/
theorem isClean_iff (recorded : report.Recorded) :
    report.tally.failures = 0 ∧ report.tally.errors = 0 ↔
      ∀ suite ∈ report.suites, suite.skipped = false →
        ∀ case ∈ suite.cases, ∀ check ∈ case.checks, check.IsClean := by
  rw [recorded.failures_eq_zero_iff, recorded.errors_eq_zero_iff]
  constructor
  · rintro ⟨noFailure, noError⟩ suite member - case inside
    have counted : case ∈ report.cases := List.mem_flatMap.mpr ⟨suite, member, inside⟩
    have finished := (recorded.suites_recorded suite member).cases_finished case inside
    exact finished.isClean_iff.mp ⟨noFailure case counted, noError case counted⟩
  · intro clean
    have cleanCase : ∀ case ∈ report.cases,
        case.verdict ≠ .nonConformant ∧ case.verdict ≠ .undefined := by
      intro case counted
      obtain ⟨suite, member, inside⟩ := List.mem_flatMap.mp counted
      have suiteRecorded := recorded.suites_recorded suite member
      have finished := suiteRecorded.cases_finished case inside
      have ran : suite.skipped = false := by
        by_contra skipped
        rw [Bool.not_eq_false] at skipped
        rw [suiteRecorded.cases_of_skipped skipped] at inside
        exact absurd inside List.not_mem_nil
      exact finished.isClean_iff.mpr (clean suite member ran case inside)
    exact ⟨fun case counted => (cleanCase case counted).1,
      fun case counted => (cleanCase case counted).2⟩

end Recorded

end ProtocolReport

namespace RunReport

/-- No check of any suite that ran has failed or gone wrong. -/
def ChecksClean (report : RunReport) : Prop :=
  ∀ protocol ∈ report.protocols, ∀ suite ∈ protocol.suites, suite.skipped = false →
    ∀ case ∈ suite.cases, ∀ check ∈ case.checks, check.IsClean

/-- Reports of runs as a run makes them: begun with nothing, and grown by recorded protocols and by
protocols that were not listed. -/
inductive Recorded : RunReport → Prop where
  | start (transport : String) : Recorded { transport }
  | push {report : RunReport} {protocol : ProtocolReport} :
      report.Recorded → protocol.Recorded → Recorded (report.push protocol)
  | pushNotImplemented {report : RunReport} (protocol : UInt8) :
      report.Recorded → Recorded (report.pushNotImplemented protocol)

namespace Recorded

variable {report : RunReport}

theorem protocols_recorded (recorded : report.Recorded) :
    ∀ protocol ∈ report.protocols, protocol.Recorded := by
  induction recorded with
  | start transport => simp
  | @push report protocol _ added induction =>
      intro other member
      rcases List.mem_append.mp member with member | member
      · exact induction other member
      · rw [List.mem_singleton.mp member]
        exact added
  | pushNotImplemented protocol _ induction => exact induction

theorem totals_eq_sum (recorded : report.Recorded) :
    report.totals = (report.protocols.map (·.tally)).sum := by
  induction recorded with
  | start transport => rfl
  | @push report protocol _ _ induction =>
      simp only [RunReport.push, List.map_append, List.sum_append, List.map_cons, List.map_nil,
        List.sum_singleton, induction]
  | pushNotImplemented protocol _ induction => exact induction

/-- No failure and no error among the checks is lost on the way to the totals. -/
theorem isClean_iff (recorded : report.Recorded) :
    report.isClean = true ↔ report.ChecksClean := by
  have protocols := recorded.protocols_recorded
  rw [isClean, Tally.isClean_iff, recorded.totals_eq_sum, Tally.failures_sum_eq_zero_iff,
    Tally.errors_sum_eq_zero_iff, List.forall_mem_map, List.forall_mem_map]
  constructor
  · rintro ⟨noFailure, noError⟩ protocol member
    exact (protocols protocol member).isClean_iff.mp
      ⟨noFailure protocol member, noError protocol member⟩
  · intro clean
    have counted (protocol : ProtocolReport) (member : protocol ∈ report.protocols) :=
      (protocols protocol member).isClean_iff.mpr (clean protocol member)
    exact ⟨fun protocol member => (counted protocol member).1,
      fun protocol member => (counted protocol member).2⟩

end Recorded

end RunReport

end PlatformAudit
