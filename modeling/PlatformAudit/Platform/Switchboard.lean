import PlatformAudit.Link.Link
import PlatformAudit.Platform.Handler
import PlatformAudit.Protocol.ProtocolMap

/-!
# The switchboard

A platform in the same process: each command goes to the handler of its protocol, and late messages
wait in queues until they are fetched.  Commands for a protocol without a handler are answered as
not supported.
-/

universe u

namespace PlatformAudit

/-- Handlers by protocol, and the late messages that they have queued. -/
structure Switchboard (α : Type u) where
  handlers : ProtocolMap α := .empty
  pending : Pending := {}

namespace Switchboard

variable {α : Type u}

/-- Gives a protocol a handler.  The first handler of a protocol stays. -/
def register (board : Switchboard α) (protocol : UInt8) (handler : α) :
    Except LinkError (Switchboard α) :=
  if board.handlers.contains protocol then
    .error (.handlerTaken protocol)
  else
    .ok { board with handlers := board.handlers.insert protocol handler }

def dispatch [Attendant α] (board : Switchboard α) (header : Header) (parameters : List UInt32) :
    Response × Switchboard α :=
  match board.handlers.get? header.protocol with
  | none => (.ofStatus header .notSupported, board)
  | some handler =>
      let reply := Attendant.attend handler board.pending.waiting header parameters
      (reply.response,
        { handlers := board.handlers.insert header.protocol reply.next
          pending := board.pending.pushAll reply.posts })

def take (board : Switchboard α) (late : Late) : Answer × Switchboard α :=
  match board.pending.pop? late with
  | none => (.error (.nothingPending late), board)
  | some (response, rest) => (.ok response, { board with pending := rest })

def link [Attendant α] : Link (Switchboard α) where
  name := "mock"
  exchange board header parameters :=
    let (response, next) := board.dispatch header parameters
    (.ok response, next)
  fetch board late := board.take late

def inspect (board : Switchboard α) : String :=
  Inspect.record "MockTransport"
    [ ("protocols", Inspect.numbers (board.handlers.ids.map (·.toNat)))
    , ("pending", board.pending.inspect) ]

end Switchboard

end PlatformAudit
