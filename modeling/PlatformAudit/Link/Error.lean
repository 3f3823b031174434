import PlatformAudit.Files.Fault
import PlatformAudit.Mailbox.Frame

/-!
# Errors of a link

A link fails if no answer arrives or if what arrives answers something else.  A platform that
answers with a negative status has not failed in this sense: that is an answer.
-/

namespace PlatformAudit

/-- Why a platform could not be reached or its answer was refused. -/
inductive LinkError where
  | cannotOpen (path : String) (fault : Fault)
  | channel (fault : Fault)
  | silence (limitMs : Nat)
  | frame (cause : FrameError)
  | tooManyParameters (count limit : Nat)
  | foreignAnswer (sent received : Header)
  | unexpectedKind (expected received : MessageKind)
  | handlerTaken (protocol : UInt8)
  | nothingPending (late : Late)
deriving DecidableEq, Repr

namespace LinkError

def message : LinkError → String
  | .cannotOpen path fault => "failed to open " ++ path ++ ": " ++ fault.message
  | .channel fault => "I/O error: " ++ fault.message
  | .silence limitMs => "no response within " ++ Text.decimal limitMs ++ " ms"
  | .frame cause => "frame error: " ++ cause.message
  | .tooManyParameters count limit =>
      Text.decimal count ++ " parameters exceed the limit of " ++ Text.decimal limit
  | .foreignAnswer sent received =>
      "response header mismatch: sent [" ++ sent.text ++ "], got [" ++ received.text ++ "]"
  | .unexpectedKind expected received =>
      "expected a " ++ expected.text ++ ", received a " ++ received.text
  | .handlerTaken protocol => "protocol " ++ Text.hexByte protocol ++ " already has a handler"
  | .nothingPending late => "no pending " ++ late.kind.text

def cause? : LinkError → Option String
  | .cannotOpen _ fault => some fault.message
  | .channel fault => some fault.message
  | .frame cause => some cause.message
  | _ => none

end LinkError

end PlatformAudit
