import PlatformAudit.Message.Header
import PlatformAudit.Message.Status

/-!
# Responses

What the platform sends: a header, a signed status and return words.  A notification has no status
of its own and counts as successful.
-/

namespace PlatformAudit

/-- A message from the platform. -/
structure Response where
  header : Header
  status : Int32
  returns : List UInt32
deriving DecidableEq, Repr

namespace Response

def ofStatus (header : Header) (status : Status) : Response where
  header := header
  status := status.code
  returns := []

/-- The answer to a command that brought return words or was refused. -/
def ofResult (header : Header) : Except Status (List UInt32) → Response
  | .ok returns => { header, status := Status.success.code, returns }
  | .error status => .ofStatus header status

/-- The return word at a position, if the platform sent that many. -/
def word? (response : Response) (position : Nat) : Option UInt32 :=
  response.returns[position]?

def Succeeded (response : Response) : Prop :=
  response.status = Status.success.code

instance (response : Response) : Decidable response.Succeeded :=
  inferInstanceAs (Decidable (_ = _))

end Response

end PlatformAudit
