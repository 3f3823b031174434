/-!
# Journals

Where the progress of an audit is written down: on the console, in a file, in memory, or nowhere.
-/

namespace PlatformAudit

/-- Where lines go. -/
inductive Sink where
  | console
  | file
  | capture
  | nowhere
deriving DecidableEq, Repr

/-- A sink and the text that it has received. -/
structure Journal where
  sink : Sink
  text : String := ""
deriving DecidableEq, Repr

namespace Journal

def add (journal : Journal) (line : String) : Journal :=
  match journal.sink with
  | .nowhere => journal
  | .console | .file | .capture => { journal with text := journal.text ++ line ++ "\n" }

/-- The text that was received, if it is in the given sink. -/
def textIn? (journal : Journal) (sink : Sink) : Option String :=
  if journal.sink = sink then some journal.text else none

end Journal

end PlatformAudit
