import PlatformAudit.Proofs.Report.RollUp

/-!
# Counting every case once

`Tally.Counts` says what the counters of a tally are, in terms of the cases that were put into it
and of the number of suites that were left out.  Tallies of two groups add up to one that counts
both, so a recorded report counts as its parts do.
-/

namespace PlatformAudit

namespace Tally

/-- A tally counts every one of some cases once, by its verdict, and as a skip every suite that was
left out. -/
structure Counts (tally : Tally) (cases : List CaseReport) (leftOut : Nat) : Prop where
  tests : tally.tests = .ofNat cases.length
  failures : tally.failures = .ofNat (cases.countP (·.verdict = .nonConformant))
  errors : tally.errors = .ofNat (cases.countP (·.verdict = .undefined))
  skips : tally.skips = .ofNat (cases.countP (·.verdict = .untested) + leftOut)

namespace Counts

theorem zero : Counts 0 [] 0 where
  tests := rfl
  failures := rfl
  errors := rfl
  skips := rfl

theorem skippedSuite : ofSkippedSuite.Counts [] 1 where
  tests := rfl
  failures := rfl
  errors := rfl
  skips := rfl

/-- Two tallies together count what each of them counts. -/
theorem add {first second : Tally} {ahead behind : List CaseReport} {leftOut others : Nat}
    (counts : first.Counts ahead leftOut) (countsOthers : second.Counts behind others) :
    (first + second).Counts (ahead ++ behind) (leftOut + others) where
  tests := by
    rw [tests_add, counts.tests, countsOthers.tests, List.length_append, Counter.ofNat_add]
  failures := by
    rw [failures_add, counts.failures, countsOthers.failures, List.countP_append,
      Counter.ofNat_add]
  errors := by
    rw [errors_add, counts.errors, countsOthers.errors, List.countP_append, Counter.ofNat_add]
  skips := by
    rw [skips_add, counts.skips, countsOthers.skips, List.countP_append, ← Counter.ofNat_add,
      Nat.add_add_add_comm]

end Counts

end Tally

namespace CaseReport

/-- A finished case counts once.  It has one of the four verdicts that the counters tell apart. -/
theorem IsFinished.counts {report : CaseReport} (finished : report.IsFinished) :
    (Tally.ofCase report.verdict).Counts [report] 0 := by
  rw [IsFinished, current] at finished
  rcases classify_cases report.checks with verdict | verdict | verdict | verdict <;>
    rw [verdict] at finished <;>
    constructor <;>
    simp [finished, Tally.ofCase, Counter.zero_eq_ofNat, Counter.one_eq_ofNat]

theorem sum_counts {cases : List CaseReport} (finished : ∀ case ∈ cases, case.IsFinished) :
    Tally.Counts (cases.map fun case => .ofCase case.verdict).sum cases 0 := by
  induction cases with
  | nil => exact .zero
  | cons case rest induction =>
      have ofRest := induction fun other member => finished other (List.mem_cons_of_mem _ member)
      exact (finished case List.mem_cons_self).counts.add ofRest

end CaseReport

namespace SuiteReport

/-- How many suites were left out. -/
def leftOut (suites : List SuiteReport) : Nat :=
  suites.countP (·.skipped)

theorem Recorded.counts {report : SuiteReport} (recorded : report.Recorded) :
    report.tally.Counts report.cases (leftOut [report]) := by
  cases recorded with
  | skipped name => exact .skippedSuite
  | ran name finished =>
      rw [ofCases_eq]
      exact CaseReport.sum_counts finished

theorem sum_counts {suites : List SuiteReport} (recorded : ∀ suite ∈ suites, suite.Recorded) :
    Tally.Counts (suites.map (·.tally)).sum (suites.flatMap (·.cases)) (leftOut suites) := by
  induction suites with
  | nil => exact .zero
  | cons suite rest induction =>
      have ofRest := induction fun other member => recorded other (List.mem_cons_of_mem _ member)
      have together := (recorded suite List.mem_cons_self).counts.add ofRest
      rw [leftOut, leftOut, ← List.countP_append] at together
      exact together

end SuiteReport

namespace ProtocolReport.Recorded

variable {report : ProtocolReport}

theorem tally_eq_sum (recorded : report.Recorded) :
    report.tally = (report.suites.map (·.tally)).sum := by
  cases recorded with
  | ofSuites name protocol recorded => simp only [ofSuites_eq]

/-- The tally of a protocol counts its cases and the suites that were left out. -/
theorem counts (recorded : report.Recorded) :
    report.tally.Counts report.cases (SuiteReport.leftOut report.suites) := by
  rw [recorded.tally_eq_sum]
  exact SuiteReport.sum_counts recorded.suites_recorded

end ProtocolReport.Recorded

end PlatformAudit
