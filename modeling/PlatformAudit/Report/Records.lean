import PlatformAudit.Report.Tally

/-!
# Records of a run

Checks make up cases, cases make up suites, suites make up protocols and protocols make up a run.
Each level keeps the tally of what was put into it, so that every finished case is counted once.
-/

namespace PlatformAudit

/-- One assertion or observation of a case. -/
structure Check where
  name : String
  outcome : Verdict
  detail : String
deriving DecidableEq, Repr

/-- What a case has brought. -/
structure CaseReport where
  id : String
  message : UInt8
  checks : List Check := []
  verdict : Verdict := .undefined
deriving DecidableEq, Repr

namespace CaseReport

def count (checks : List Check) (outcome : Verdict) : Nat :=
  checks.countP (·.outcome = outcome)

/-- The verdict on a list of checks.  One failure is enough not to conform, and one error is enough
to be undefined otherwise.  A case of which nothing was checked is untested. -/
def classify (checks : List Check) : Verdict :=
  if 0 < count checks .failed then .nonConformant
  else if 0 < count checks .error then .undefined
  else if checks ≠ [] ∧ count checks .skip < checks.length then .conformant
  else .untested

def current (report : CaseReport) : Verdict :=
  classify report.checks

def record (report : CaseReport) (check : Check) : CaseReport :=
  { report with checks := report.checks ++ [check] }

def finish (report : CaseReport) : CaseReport :=
  { report with verdict := report.current }

end CaseReport

/-- What a suite has brought. -/
structure SuiteReport where
  name : String
  skipped : Bool := false
  cases : List CaseReport := []
  tally : Tally := {}
  verdict : Verdict := .untested
deriving DecidableEq, Repr

namespace SuiteReport

def ofSkipped (name : String) : SuiteReport where
  name := name
  skipped := true
  tally := .ofSkippedSuite
  verdict := .skip

def push (report : SuiteReport) (case : CaseReport) : SuiteReport :=
  { report with
    cases := report.cases ++ [case]
    tally := report.tally.withCase case.verdict }

/-- The report with the verdict that its cases give.  A suite that was left out keeps its own. -/
def finish (report : SuiteReport) : SuiteReport :=
  if report.skipped then report
  else { report with verdict := .worst (report.cases.map (·.verdict)) }

def ofCases (name : String) (cases : List CaseReport) : SuiteReport :=
  (cases.foldl push { name }).finish

end SuiteReport

/-- What a protocol has brought. -/
structure ProtocolReport where
  name : String
  protocol : UInt8
  suites : List SuiteReport := []
  tally : Tally := {}
  verdict : Verdict := .untested
deriving DecidableEq, Repr

namespace ProtocolReport

def push (report : ProtocolReport) (suite : SuiteReport) : ProtocolReport :=
  { report with
    suites := report.suites ++ [suite]
    tally := report.tally + suite.tally }

/-- The report with the verdict that its suites give.  Suites that were left out say nothing. -/
def finish (report : ProtocolReport) : ProtocolReport :=
  { report with
    verdict := .worst ((report.suites.filter (!·.skipped)).map (·.verdict)) }

def ofSuites (name : String) (protocol : UInt8) (suites : List SuiteReport) : ProtocolReport :=
  (suites.foldl push { name, protocol }).finish

def case? (report : ProtocolReport) (id : String) : Option CaseReport :=
  (report.suites.flatMap (·.cases)).find? (·.id = id)

def suite? (report : ProtocolReport) (name : String) : Option SuiteReport :=
  report.suites.find? (·.name = name)

end ProtocolReport

/-- What a whole run has brought. -/
structure RunReport where
  transport : String
  protocols : List ProtocolReport := []
  notImplemented : List UInt8 := []
  totals : Tally := {}
deriving DecidableEq, Repr

namespace RunReport

def push (report : RunReport) (protocol : ProtocolReport) : RunReport :=
  { report with
    protocols := report.protocols ++ [protocol]
    totals := report.totals + protocol.tally }

def pushNotImplemented (report : RunReport) (protocol : UInt8) : RunReport :=
  { report with notImplemented := report.notImplemented ++ [protocol] }

def protocol? (report : RunReport) (protocol : UInt8) : Option ProtocolReport :=
  report.protocols.find? (·.protocol = protocol)

def isClean (report : RunReport) : Bool :=
  report.totals.isClean

end RunReport

end PlatformAudit
