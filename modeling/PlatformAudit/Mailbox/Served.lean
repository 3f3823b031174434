import PlatformAudit.Mailbox.Mailbox
import PlatformAudit.Platform.Switchboard

/-!
# A switchboard behind a mailbox

A platform that answers each command in the message file from a switchboard.  Before it answers, it
puts the next late message into the notification file, if that file is there and empty.  Completions
go before notifications.
-/

universe u

namespace PlatformAudit

namespace Switchboard

variable {α : Type u}

def nextLate? (board : Switchboard α) : Option (Response × Switchboard α) :=
  match board.pending.pop? .delayedResponse with
  | some (response, rest) => some (response, { board with pending := rest })
  | none =>
      (board.pending.pop? .notification).map fun (response, rest) =>
        (response, { board with pending := rest })

/-- Whether a notification file can take a message: its length is there and is zero. -/
def canStage (channel : Channel) : Bool :=
  LittleEndian.wordAt? (Mailbox.buffer channel) Frame.lengthOffset = some 0

/-- Writes a response to the start of a file.  What cannot be framed or written is left out. -/
def writeResponse (channel : Channel) (response : Response) : Channel :=
  match Frame.ofResponse response with
  | .error _ => channel
  | .ok bytes =>
      match channel.writeAt 0 bytes with
      | .error _ => channel
      | .ok written => written

/-- Puts the next late message into the notification file, if there is room for it. -/
def stage (board : Switchboard α) (mailbox : Mailbox) : Mailbox × Switchboard α :=
  match mailbox.notification with
  | none => (mailbox, board)
  | some channel =>
      if canStage channel then
        match board.nextLate? with
        | none => (mailbox, board)
        | some (response, rest) =>
            ({ mailbox with notification := some (writeResponse channel response) }, rest)
      else (mailbox, board)

/-- Answers the command in the message file, once there was a chance for a late message. -/
def writeAnswer (board : Switchboard α) (mailbox : Mailbox) (response : Response) :
    Mailbox × Switchboard α :=
  let (staged, rest) := board.stage mailbox
  ({ staged with message := writeResponse staged.message response }, rest)

/-- What is done when the doorbell rings.  What is no command is left alone; a command goes to the
handler of its protocol and is answered as not supported if there is none. -/
def serve [Attendant α] : Reaction (Switchboard α) := fun board mailbox =>
  match Frame.toCommand (Mailbox.buffer mailbox.message) with
  | .error _ => (mailbox, board)
  | .ok (header, parameters) =>
      match board.handlers.get? header.protocol with
      | none => board.writeAnswer mailbox (.ofStatus header .notSupported)
      | some handler =>
          let reply := Attendant.attend handler board.pending.waiting header parameters
          let handled : Switchboard α :=
            { handlers := board.handlers.insert header.protocol reply.next
              pending := board.pending.pushAll reply.posts }
          handled.writeAnswer mailbox reply.response

end Switchboard

end PlatformAudit
