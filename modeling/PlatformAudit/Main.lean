import PlatformAudit.CommandLine.Execution

/-!
# The program

The outer layer of the auditor: it opens files, waits for platforms and prints.  What is asked, what
is accepted and what is printed is decided by the modules that it imports.
-/

namespace PlatformAudit.Program

def faultOf (error : IO.Error) : Fault :=
  match error with
  | .noFileOrDirectory .. => .notFound
  | .resourceExhausted .. => .noSpace
  | .inappropriateType _ 20 _ => .notADirectory
  | .inappropriateType _ 21 _ => .isDirectory
  | .invalidArgument _ 36 _ => .nameTooLong
  | _ => .other (toString error)

def guarded {α : Type} (action : IO α) : IO (Except Fault α) := do
  match ← action.toBaseIO with
  | .ok value => return .ok value
  | .error cause => return .error (faultOf cause)

/-- Opens a file that has to be there, to see whether it can be read and written. -/
def probe (path : String) : IO (Except LinkError Unit) := do
  match ← guarded (IO.FS.Handle.mk path .readWrite) with
  | .ok _ => return .ok ()
  | .error fault => return .error (.cannotOpen path fault)

def readBuffer (path : String) : IO (Except Fault (List UInt8)) :=
  guarded do
    let handle ← IO.FS.Handle.mk path .read
    let bytes ← handle.read (USize.ofNat Frame.size)
    return bytes.toList

/-- Writes bytes behind those that a file already begins with. -/
def writeBehind (path : String) (first bytes : List UInt8) : IO (Except Fault Unit) :=
  guarded do
    let handle ← IO.FS.Handle.mk path .readWrite
    handle.write (ByteArray.mk (first ++ bytes).toArray)
    handle.flush

/-- Reads a file every millisecond until its buffer is ready or the time is up. -/
partial def poll (path : String) (limitMs startMs : Nat) (ready : List UInt8 → Bool) :
    IO (Except LinkError (List UInt8)) := do
  match ← readBuffer path with
  | .error fault => return .error (.channel fault)
  | .ok bytes =>
      if ready bytes then return .ok bytes
      else if limitMs ≤ (← IO.monoMsNow) - startMs then return .error (.silence limitMs)
      else
        IO.sleep 1
        poll path limitMs startMs ready

def exchange (paths : MailboxPaths) (limitMs : Nat) (header : Header)
    (parameters : List UInt32) : IO Answer := do
  match Frame.ofCommand header parameters with
  | .error cause => return .error (.frame cause)
  | .ok bytes =>
      match ← writeBehind paths.message [] bytes with
      | .error fault => return .error (.channel fault)
      | .ok () =>
          match ← writeBehind paths.signal [] [Mailbox.doorbell] with
          | .error fault => return .error (.channel fault)
          | .ok () =>
              match ← poll paths.message limitMs (← IO.monoMsNow) Frame.isFree with
              | .error cause => return .error cause
              | .ok reply => return Mailbox.ofFrame (Frame.toResponse reply)

def fetch (paths : MailboxPaths) (limitMs : Nat) (late : Late) : IO Answer := do
  match paths.notification with
  | none => return .error (.nothingPending late)
  | some path =>
      match ← poll path limitMs (← IO.monoMsNow) Mailbox.holdsMessage with
      | .error cause => return .error cause
      | .ok bytes =>
          match Mailbox.otherKind? late bytes with
          | some kind => return .error (.unexpectedKind late.kind kind)
          | none =>
              match ← writeBehind path (bytes.take Frame.lengthOffset) Mailbox.emptyMark with
              | .error fault => return .error (.channel fault)
              | .ok () => return Mailbox.ofFrame (Frame.toResponse bytes)

def askMailbox (paths : MailboxPaths) (limitMs : Nat) : Request → IO Answer
  | .command header parameters => do
      if maxPayloadWords < parameters.length then
        return .error (.tooManyParameters parameters.length maxPayloadWords)
      else
        return Link.acceptAnswer header (← exchange paths limitMs header parameters)
  | .await late => do
      return Link.acceptLate late (← fetch paths limitMs late)

def askBoard (board : IO.Ref (Switchboard Service)) (request : Request) : IO Answer := do
  let (answer, next) := Switchboard.link.answer (← board.get) request
  board.set next
  return answer

def play {α : Type} (ask : Request → IO Answer) (say : String → IO Unit) : Dialogue α → IO α
  | .done value => return value
  | .ask request next => do play ask say (next (← ask request))
  | .say line next => do
      say line
      play ask say next

def probeAll (paths : MailboxPaths) : IO (Except LinkError Unit) := do
  for path in paths.notification.toList ++ [paths.message, paths.signal] do
    match ← probe path with
    | .error cause => return .error cause
    | .ok () => pure ()
  return .ok ()

def connect (settings : Settings) (platform : PlatformConfig) :
    IO (Except SettingsError (String × (Request → IO Answer))) := do
  match settings.transport with
  | .mock =>
      let board ← IO.mkRef platform.switchboard
      return .ok ((Endpoint.mock platform.switchboard).name, askBoard board)
  | .mailbox =>
      match settings.mailboxPaths with
      | .error cause => return .error cause
      | .ok paths =>
          match ← probeAll paths with
          | .error cause => return .error (.transport cause)
          | .ok () =>
              let name := (Mailbox.link 0 Reaction.replacing).name
              return .ok (name, askMailbox paths settings.waitLimitMs)

/-- How lines are written.  A line that cannot be written is lost. -/
def openProgress (settings : Settings) : IO (Except SettingsError (String → IO Unit)) := do
  match settings.journalTarget with
  | (.console, _) => return .ok fun line => IO.println line
  | (_, none) => return .ok fun _ => pure ()
  | (_, some path) =>
      match ← guarded (IO.FS.Handle.mk path .write) with
      | .error fault => return .error (.log path fault)
      | .ok handle =>
          return .ok fun line => do
            let _ ← guarded (handle.putStrLn line)
            let _ ← guarded handle.flush
            return ()

def runSession (settings : Settings) (platform : PlatformConfig) :
    IO (Except SessionError RunReport) := do
  let agent := Agent.standard (settings.fixtures platform)
  match ← connect settings platform with
  | .error cause => return .error (.settings cause)
  | .ok (name, ask) =>
      match ← openProgress settings with
      | .error cause => return .error (.settings cause)
      | .ok say =>
          let (answer, _) ← play ask say (agent.conduct settings.protocols name 0)
          return answer.mapError .registry

def environment : IO CommandLine.Environment := do
  return {
    message := ← IO.getEnv CommandLine.Environment.messageVariable
    signal := ← IO.getEnv CommandLine.Environment.signalVariable
    notification := ← IO.getEnv CommandLine.Environment.notificationVariable }

end PlatformAudit.Program

open PlatformAudit in
def main (words : List String) : IO UInt32 := do
  match CommandLine.Arguments.read words (← Program.environment) with
  | .error refusal =>
      IO.eprintln ("error: " ++ refusal.message)
      return UInt32.ofNat CommandLine.refusedCode
  | .ok arguments =>
      if arguments.list then
        IO.print arguments.listing
        return 0
      else
        match ← Program.runSession arguments.sessionSettings arguments.platform with
        | .error cause =>
            IO.eprintln ("error: " ++ cause.message)
            return UInt32.ofNat CommandLine.refusedCode
        | .ok report =>
            IO.print (arguments.rendering report)
            return UInt32.ofNat (CommandLine.exitCode report)
