import PlatformAudit.Report.Records
import PlatformAudit.Text.Column

/-!
# Summaries of a run

The table that is shown at the end of a run.
-/

namespace PlatformAudit

def SuiteReport.summaryLine (report : SuiteReport) : String :=
  "  " ++ Text.column 40 report.name ++ " " ++ report.verdict.label

/-- The lines of a protocol: a blank line, its verdict, its suites and its tally. -/
def ProtocolReport.summaryLines (report : ProtocolReport) : List String :=
  [ ""
  , report.name ++ " (" ++ Text.hexByte report.protocol ++ "): " ++ report.verdict.label ]
    ++ report.suites.map SuiteReport.summaryLine
    ++ ["  " ++ report.tally.text]

def RunReport.summaryLines (report : RunReport) : List String :=
  ["transport: " ++ report.transport]
    ++ report.protocols.flatMap ProtocolReport.summaryLines
    ++ report.notImplemented.flatMap (fun protocol =>
      ["", "protocol " ++ Text.hexByte protocol ++ ": not implemented by the platform"])
    ++ ["", "TOTAL " ++ report.totals.text]

def RunReport.summary (report : RunReport) : String :=
  String.join (report.summaryLines.map (· ++ "\n"))

end PlatformAudit
