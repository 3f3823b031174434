import PlatformAudit.Link.Error

/-!
# Links to a platform

A `Link` carries commands to a platform and late messages back.  What the platform and the medium
remember between two requests is the state `σ`.  Whatever the medium is, every request goes through
the same checks: a command has to fit into one message, an answer has to belong to its command, and
a late message has to be of the kind that was waited for.
-/

universe u

namespace PlatformAudit

/-- What an agent asks of a platform. -/
inductive Request where
  | command (header : Header) (parameters : List UInt32)
  | await (late : Late)
deriving DecidableEq, Repr

abbrev Answer := Except LinkError Response

/-- A medium that carries messages, before any check. -/
structure Link (σ : Type u) where
  name : String
  exchange : σ → Header → List UInt32 → Answer × σ
  fetch : σ → Late → Answer × σ

namespace Link

variable {σ : Type u}

def acceptAnswer (sent : Header) : Answer → Answer
  | .error cause => .error cause
  | .ok response =>
      if sent.Matches response.header then .ok response
      else .error (.foreignAnswer sent response.header)

def acceptLate (late : Late) : Answer → Answer
  | .error cause => .error cause
  | .ok response =>
      if response.header.kind = late.kind then .ok response
      else .error (.unexpectedKind late.kind response.header.kind)

/-- Sends a command.  One with too many parameters stays unsent. -/
def send (link : Link σ) (state : σ) (header : Header) (parameters : List UInt32) : Answer × σ :=
  if maxPayloadWords < parameters.length then
    (.error (.tooManyParameters parameters.length maxPayloadWords), state)
  else
    let (answer, next) := link.exchange state header parameters
    (acceptAnswer header answer, next)

def await (link : Link σ) (state : σ) (late : Late) : Answer × σ :=
  let (answer, next) := link.fetch state late
  (acceptLate late answer, next)

def answer (link : Link σ) (state : σ) : Request → Answer × σ
  | .command header parameters => link.send state header parameters
  | .await late => link.await state late

end Link

end PlatformAudit
