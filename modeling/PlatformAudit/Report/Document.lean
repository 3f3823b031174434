import PlatformAudit.Report.Records

/-!
# Reports as documents

The reports as JSON.  Members stand in the order in which the records declare them.
-/

namespace PlatformAudit

def Verdict.document (verdict : Verdict) : Json :=
  .string verdict.documentName

def Tally.document (tally : Tally) : Json :=
  .object
    [ ("tests", tally.tests.document)
    , ("failures", tally.failures.document)
    , ("errors", tally.errors.document)
    , ("skips", tally.skips.document) ]

def Check.document (check : Check) : Json :=
  .object
    [ ("name", .string check.name)
    , ("outcome", check.outcome.document)
    , ("detail", .string check.detail) ]

def CaseReport.document (report : CaseReport) : Json :=
  .object
    [ ("id", .string report.id)
    , ("message_id", .number report.message.toNat)
    , ("checks", .array (report.checks.map Check.document))
    , ("status", report.verdict.document) ]

def SuiteReport.document (report : SuiteReport) : Json :=
  .object
    [ ("name", .string report.name)
    , ("skipped", .bool report.skipped)
    , ("cases", .array (report.cases.map CaseReport.document))
    , ("stats", report.tally.document)
    , ("status", report.verdict.document) ]

def ProtocolReport.document (report : ProtocolReport) : Json :=
  .object
    [ ("name", .string report.name)
    , ("protocol_id", .number report.protocol.toNat)
    , ("suites", .array (report.suites.map SuiteReport.document))
    , ("stats", report.tally.document)
    , ("status", report.verdict.document) ]

def RunReport.document (report : RunReport) : Json :=
  .object
    [ ("transport", .string report.transport)
    , ("protocols", .array (report.protocols.map ProtocolReport.document))
    , ("not_implemented", .array (report.notImplemented.map fun id => .number id.toNat))
    , ("totals", report.totals.document) ]

end PlatformAudit
