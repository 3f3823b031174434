import PlatformAudit.Platform.Pending

/-!
# Handlers

The platform side of one protocol is a state machine: a `Handler` answers a command, may queue late
messages, and moves on to its next state.  An `Attendant` is more: it also sees how many messages of
each kind wait already.
-/

universe u

namespace PlatformAudit

/-- What a handler makes of a command. -/
structure Reply (α : Type u) where
  response : Response
  /-- Late messages, in the order in which they are queued. -/
  posts : List Post := []
  next : α

/-- State machines that answer commands with an eye on the queues. -/
class Attendant (α : Type u) where
  attend : α → (Late → Nat) → Header → List UInt32 → Reply α

/-- State machines that answer commands by what is in them. -/
class Handler (α : Type u) where
  respond : α → Header → List UInt32 → Reply α

instance {α : Type u} [Handler α] : Attendant α where
  attend handler _ := Handler.respond handler

/-- A handler at work on a command: its state by now, and what it has posted by now. -/
structure Work (α : Type) where
  state : α
  posts : List Post := []

/-- Steps of work that end with a result or with a refusal.  Either way, what was changed or posted
before stays. -/
abbrev Handling (α : Type) : Type → Type :=
  ExceptT Status (StateM (Work α))

namespace Handling

variable {α : Type}

def state : Handling α α := do
  return (← get).state

def change (state : α) : Handling α Unit :=
  modify fun work => { work with state }

def post (post : Post) : Handling α Unit :=
  modify fun work => { work with posts := work.posts ++ [post] }

end Handling

/-- What comes of some steps, and how far they have got. -/
def Work.handle {α β : Type} (work : Work α) (handling : Handling α β) : Except Status β × Work α :=
  handling.run.run work

/-- The reply of a handler that has worked on a command, whether it got to the end or not. -/
def Reply.ofHandling {α : Type} (state : α) (header : Header)
    (handling : Handling α (List UInt32)) : Reply α :=
  let (result, work) := Work.handle { state } handling
  { response := .ofResult header result, posts := work.posts, next := work.state }

/-- The parameter at a position.  A command that is too short is a protocol error. -/
def parameter (parameters : List UInt32) (position : Nat) : Except Status UInt32 :=
  match parameters[position]? with
  | some value => .ok value
  | none => .error .protocolError

end PlatformAudit
