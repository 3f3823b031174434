/-!
# Verdicts

What comes of a single check, of a case, of a suite or of a protocol.  A check passes, fails, is
skipped, informs or goes wrong; a case, a suite and a protocol conform, do not conform, are
undefined or are untested.
-/

namespace PlatformAudit

/-- What comes of a check or of a group of checks. -/
inductive Verdict where
  /-- Something went wrong, so that nothing can be said. -/
  | undefined
  | passed
  | failed
  | skip
  | info
  | error
  | conformant
  | nonConformant
  | untested
deriving DecidableEq, Repr

namespace Verdict

def label : Verdict → String
  | undefined => "UNDEFINED"
  | passed => "PASSED"
  | failed => "FAILED"
  | skip => "SKIPPED"
  | info => "INFO"
  | error => "ERROR"
  | conformant => "CONFORMANT"
  | nonConformant => "NON CONFORMANT"
  | untested => "UNTESTED"

def documentName : Verdict → String
  | undefined => "Undefined"
  | passed => "Passed"
  | failed => "Failed"
  | skip => "Skip"
  | info => "Info"
  | error => "Error"
  | conformant => "Conformant"
  | nonConformant => "NonConformant"
  | untested => "Untested"

def all : List Verdict :=
  [ undefined, passed, failed, skip, info, error, conformant, nonConformant, untested ]

def ofDocumentName? (name : String) : Option Verdict :=
  all.find? fun verdict => verdict.documentName = name

/-- Looks through the members of a group, with what they have come to so far.  One that does not
conform ends the search. -/
def scan : Verdict → List Verdict → Verdict
  | found, [] => found
  | _, nonConformant :: _ => nonConformant
  | _, undefined :: rest => scan undefined rest
  | found, conformant :: rest => scan (if found = untested then conformant else found) rest
  | found, _ :: rest => scan found rest

/-- What is said of a group by its members. -/
def worst (members : List Verdict) : Verdict :=
  scan untested members

end Verdict

end PlatformAudit
