import PlatformAudit.CommandLine.Arguments
import PlatformAudit.CommandLine.Listing
import PlatformAudit.Report.Document
import PlatformAudit.Report.Summary
import PlatformAudit.Session.Session

/-!
# Carrying out a command line

What a command line prints and with which code it ends: 0 if nothing failed, 1 if something did, and
2 if there was nothing to run.
-/

universe u

namespace PlatformAudit.CommandLine

/-- What is left of a command. -/
structure Result where
  exitCode : Nat
  output : String := ""
deriving DecidableEq, Repr

def refusedCode : Nat := 2

namespace Arguments

def platform (arguments : Arguments) : PlatformConfig :=
  let standard := PlatformConfig.standard
  { base := { standard.base with discoverAgent := arguments.discoverAgent }
    power := standard.power.map fun power =>
      { power with stateNotify := arguments.stateNotify } }

def listing (arguments : Arguments) : String :=
  if arguments.wantsDocument then Registry.standard.listingDocument.render ++ "\n"
  else Registry.standard.listing

def rendering (arguments : Arguments) (report : RunReport) : String :=
  if arguments.wantsDocument then report.document.render ++ "\n" else report.summary

end Arguments

def exitCode (report : RunReport) : Nat :=
  if report.isClean then 0 else 1

/-- What is left of a session: its progress if it went to the console, and its report. -/
def resultOf (arguments : Arguments) (outcome : SessionOutcome) : Result :=
  let progress := (outcome.journal.bind (·.textIn? .console)).getD ""
  match outcome.result with
  | .error _ => { exitCode := refusedCode, output := progress }
  | .ok report =>
      { exitCode := exitCode report, output := progress ++ arguments.rendering report }

/-- Carries out a command line.  `react` is what a platform behind a mailbox does. -/
def execute {ρ : Type u} (words : List String) (environment : Environment) (tree : FileTree)
    (react : Reaction ρ) (remote : ρ) : Result :=
  match Arguments.read words environment with
  | .error _ => { exitCode := refusedCode }
  | .ok arguments =>
      if arguments.list then { exitCode := 0, output := arguments.listing }
      else
        resultOf arguments
          (arguments.sessionSettings.run tree arguments.platform react remote)

end PlatformAudit.CommandLine
