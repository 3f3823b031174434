import PlatformAudit.Report.Counter
import PlatformAudit.Report.Verdict

/-!
# Tallies

Counters of finished cases.  Every finished case counts as a test, and as a failure, an error or a
skip if its verdict says so.  A suite that was left out counts as a skip and as no test.
-/

namespace PlatformAudit

/-- Counters of what a run has brought. -/
structure Tally where
  tests : Counter := 0
  failures : Counter := 0
  errors : Counter := 0
  skips : Counter := 0
deriving DecidableEq, Repr

namespace Tally

def ofCase : Verdict → Tally
  | .nonConformant | .failed => { tests := 1, failures := 1 }
  | .undefined | .error => { tests := 1, errors := 1 }
  | .untested | .skip => { tests := 1, skips := 1 }
  | .conformant | .passed | .info => { tests := 1 }

def ofSkippedSuite : Tally where
  skips := 1

instance : Add Tally where
  add first second :=
    { tests := first.tests + second.tests
      failures := first.failures + second.failures
      errors := first.errors + second.errors
      skips := first.skips + second.skips }

def withCase (tally : Tally) (verdict : Verdict) : Tally :=
  tally + ofCase verdict

def withSkippedSuite (tally : Tally) : Tally :=
  tally + ofSkippedSuite

def isClean (tally : Tally) : Bool :=
  tally.failures = 0 && tally.errors = 0

def text (tally : Tally) : String :=
  "tests: " ++ tally.tests.text ++ ", failures: " ++ tally.failures.text ++
    ", errors: " ++ tally.errors.text ++ ", skipped: " ++ tally.skips.text

end Tally

end PlatformAudit
