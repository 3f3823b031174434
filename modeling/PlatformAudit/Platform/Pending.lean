import PlatformAudit.Message.Response
import PlatformAudit.Text.Inspect

/-!
# Late messages in waiting

A platform may queue late messages while it handles a command: the completion of a command it has
accepted, or a notification.  The two kinds wait in queues of their own and leave in the order in
which they came.
-/

namespace PlatformAudit

/-- A late message that a platform queues. -/
inductive Post where
  | delayed (command : Header) (status : Int32) (returns : List UInt32)
  /-- A notification, whose whole payload counts as return words. -/
  | notification (protocol message : UInt8) (payload : List UInt32)
deriving DecidableEq, Repr

namespace Post

def late : Post → Late
  | .delayed .. => .delayedResponse
  | .notification .. => .notification

def response : Post → Response
  | .delayed command status returns =>
      { header := { command with kind := .delayedResponse }, status, returns }
  | .notification protocol message payload =>
      { header := { protocol, kind := .notification, message }
        status := Status.success.code
        returns := payload }

end Post

/-- The late messages that have not been fetched yet. -/
structure Pending where
  delayed : List Response := []
  notifications : List Response := []
deriving DecidableEq, Repr

namespace Pending

def queue (pending : Pending) : Late → List Response
  | .delayedResponse => pending.delayed
  | .notification => pending.notifications

def waiting (pending : Pending) (late : Late) : Nat :=
  (pending.queue late).length

def withQueue (pending : Pending) (late : Late) (queue : List Response) : Pending :=
  match late with
  | .delayedResponse => { pending with delayed := queue }
  | .notification => { pending with notifications := queue }

def push (pending : Pending) (post : Post) : Pending :=
  pending.withQueue post.late (pending.queue post.late ++ [post.response])

def pushAll (pending : Pending) (posts : List Post) : Pending :=
  posts.foldl push pending

def pop? (pending : Pending) (late : Late) : Option (Response × Pending) :=
  match pending.queue late with
  | [] => none
  | oldest :: rest => some (oldest, pending.withQueue late rest)

end Pending

def MessageKind.inspect : MessageKind → String
  | .command => "Command"
  | .delayedResponse => "DelayedResponse"
  | .notification => "Notification"

def Header.inspect (header : Header) : String :=
  Inspect.record "Header"
    [ ("reserved", Text.decimal header.reserved.toNat)
    , ("token", Text.decimal header.token.toNat)
    , ("protocol_id", Text.decimal header.protocol.toNat)
    , ("message_type", header.kind.inspect)
    , ("message_id", Text.decimal header.message.toNat) ]

def Response.inspect (response : Response) : String :=
  Inspect.record "Response"
    [ ("header", response.header.inspect)
    , ("status", Text.signed response.status.toInt)
    , ("returns", Inspect.numbers (response.returns.map (·.toNat))) ]

def Pending.inspect (pending : Pending) : String :=
  Inspect.record "Pending"
    [ ("delayed", Inspect.list (pending.delayed.map Response.inspect))
    , ("notifications", Inspect.list (pending.notifications.map Response.inspect)) ]

end PlatformAudit
