import PlatformAudit.Files.Channel
import PlatformAudit.Link.Link

/-!
# Mailboxes

A mailbox consists of files.  A command is written to the message file, the first byte of the signal
file is set as a doorbell, and the answer is in the message file as soon as its channel status says
that the agent may use the channel again.  Late messages come in the notification file, if there is
one: a length other than zero says that a message is there, and the agent sets it to zero when it
takes the message.  A message of the kind that was not waited for stays where it is.

Time is not modelled: what the platform does, it does at the doorbell.  What is not there then never
comes.
-/

universe u

namespace PlatformAudit

/-- The files of a mailbox. -/
structure Mailbox where
  message : Channel
  signal : Channel
  notification : Option Channel := none
deriving DecidableEq, Repr

abbrev Reaction (ρ : Type u) := ρ → Mailbox → Mailbox × ρ

/-- A platform that replaces the message file, or stays silent if it has nothing to say. -/
def Reaction.replacing : Reaction (Option (List UInt8)) := fun reply mailbox =>
  match reply with
  | some bytes => ({ mailbox with message := .file bytes }, reply)
  | none => (mailbox, reply)

namespace Mailbox

def doorbell : UInt8 := 1

/-- How long to wait for a platform unless something else is asked for, in milliseconds. -/
def defaultLimitMs : Nat := 1000

def buffer (channel : Channel) : List UInt8 :=
  channel.readUpTo Frame.size

def writeMessage (mailbox : Mailbox) (bytes : List UInt8) : Except Fault Mailbox :=
  (mailbox.message.writeAt 0 bytes).map fun message => { mailbox with message }

def ring (mailbox : Mailbox) : Except Fault Mailbox :=
  (mailbox.signal.writeAt 0 [doorbell]).map fun signal => { mailbox with signal }

def ofFrame : Except FrameError Response → Answer
  | .ok response => .ok response
  | .error cause => .error (.frame cause)

/-- The answer in the message file, if the platform has handed the channel back. -/
def collect (mailbox : Mailbox) (limitMs : Nat) : Answer :=
  let bytes := buffer mailbox.message
  if Frame.isFree bytes then ofFrame (Frame.toResponse bytes)
  else .error (.silence limitMs)

section

variable {ρ : Type u}

def exchange (limitMs : Nat) (react : Reaction ρ) (state : Mailbox × ρ) (header : Header)
    (parameters : List UInt32) : Answer × Mailbox × ρ :=
  let (mailbox, platform) := state
  match Frame.ofCommand header parameters with
  | .error cause => (.error (.frame cause), mailbox, platform)
  | .ok bytes =>
      match mailbox.writeMessage bytes with
      | .error fault => (.error (.channel fault), mailbox, platform)
      | .ok written =>
          match written.ring with
          | .error fault => (.error (.channel fault), written, platform)
          | .ok rung =>
              let (answered, next) := react platform rung
              (answered.collect limitMs, answered, next)

/-- Whether a buffer holds a late message: its length is there and is not zero. -/
def holdsMessage (bytes : List UInt8) : Bool :=
  match LittleEndian.wordAt? bytes Frame.lengthOffset with
  | some length => length != 0
  | none => false

/-- The kind of the message in a buffer, if it is not the one that is waited for.  A message whose
kind cannot be told is nobody else's. -/
def otherKind? (late : Late) (bytes : List UInt8) : Option MessageKind :=
  (Frame.kind? bytes).filter (· ≠ late.kind)

/-- The bytes that mark a notification file as empty, written over the length of its message. -/
def emptyMark : List UInt8 :=
  LittleEndian.bytes 0

def take (limitMs : Nat) (mailbox : Mailbox) (late : Late) : Answer × Mailbox :=
  match mailbox.notification with
  | none => (.error (.nothingPending late), mailbox)
  | some channel =>
      let bytes := buffer channel
      if holdsMessage bytes then
        match otherKind? late bytes with
        | some kind => (.error (.unexpectedKind late.kind kind), mailbox)
        | none =>
            match channel.writeAt Frame.lengthOffset emptyMark with
            | .error fault => (.error (.channel fault), mailbox)
            | .ok cleared =>
                (ofFrame (Frame.toResponse bytes), { mailbox with notification := some cleared })
      else (.error (.silence limitMs), mailbox)

def link (limitMs : Nat) (react : Reaction ρ) : Link (Mailbox × ρ) where
  name := "mailbox"
  exchange := exchange limitMs react
  fetch state late :=
    let (answer, mailbox) := take limitMs state.1 late
    (answer, mailbox, state.2)

end

end Mailbox

end PlatformAudit
