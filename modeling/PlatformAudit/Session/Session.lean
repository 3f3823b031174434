import PlatformAudit.Audit.Agent
import PlatformAudit.Files.FileTree
import PlatformAudit.Mailbox.Mailbox
import PlatformAudit.Session.Settings

/-!
# Sessions

A session opens the link, then the place where the progress goes, and then audits the platform.
Against a platform in the same process everything is known beforehand; against a mailbox nothing is,
so values are reported and optional suites run as the platform answers.
-/

universe u

namespace PlatformAudit

/-- The paths of the files of a mailbox. -/
structure MailboxPaths where
  message : String
  signal : String
  notification : Option String
deriving DecidableEq, Repr

namespace MailboxPaths

def openChannel (tree : FileTree) (path : String) : Except LinkError Channel :=
  (tree.openChannel path).mapError fun fault => .cannotOpen path fault

def openOptional (tree : FileTree) : Option String → Except LinkError (Option Channel)
  | none => .ok none
  | some path => (openChannel tree path).map some

/-- Opens all files, the notification file first. -/
def openMailbox (paths : MailboxPaths) (tree : FileTree) : Except LinkError Mailbox := do
  let notification ← openOptional tree paths.notification
  let message ← openChannel tree paths.message
  let signal ← openChannel tree paths.signal
  return { message, signal, notification }

end MailboxPaths

namespace Settings

/-- The paths of the mailbox.  A message file and a signal file have to be named. -/
def mailboxPaths (settings : Settings) : Except SettingsError MailboxPaths :=
  match settings.message, settings.signal with
  | none, _ => .error (.missingPath "message")
  | some _, none => .error (.missingPath "signal")
  | some message, some signal =>
      .ok { message, signal, notification := settings.notification }

def waitLimitMs (settings : Settings) : Nat :=
  settings.limitMs.getD Mailbox.defaultLimitMs

def journalTarget (settings : Settings) : Sink × Option String :=
  if settings.quiet then (.nowhere, none)
  else
    match settings.log with
    | some path => (.file, some path)
    | none => (.console, none)

def sinkOf : FileNode → Sink
  | .console => .console
  | .channel _ | .directory | .closedDirectory => .file

def openJournal (settings : Settings) (tree : FileTree) : Except SettingsError Journal :=
  match settings.journalTarget with
  | (sink, none) => .ok { sink }
  | (_, some path) =>
      match tree.create path with
      | .ok node => .ok { sink := sinkOf node }
      | .error fault => .error (.log path fault)

def fixtures (settings : Settings) (platform : PlatformConfig) : Fixtures :=
  match settings.transport with
  | .mock => .ofPlatform platform
  | .mailbox => .empty

end Settings

/-- The platform side of an open link. -/
inductive Endpoint where
  | mock (board : Switchboard Service)
  | mailbox (mailbox : Mailbox)

namespace Endpoint

def connect (settings : Settings) (tree : FileTree) (platform : PlatformConfig) :
    Except SettingsError Endpoint :=
  match settings.transport with
  | .mock => .ok (.mock platform.switchboard)
  | .mailbox => do
      let paths ← settings.mailboxPaths
      let mailbox ← (paths.openMailbox tree).mapError .transport
      return .mailbox mailbox

def name : Endpoint → String
  | .mock _ => (Switchboard.link : Link (Switchboard Service)).name
  | .mailbox _ => (Mailbox.link 0 Reaction.replacing).name

/-- Plays a dialogue against the platform.  `react` is what a platform behind a mailbox does. -/
def play {ρ : Type u} {α : Type} (endpoint : Endpoint) (limitMs : Nat) (react : Reaction ρ)
    (remote : ρ) (dialogue : Dialogue α) (journal : Journal) : α × Journal :=
  match endpoint with
  | .mock board =>
      let outcome := dialogue.run Switchboard.link.answer board journal
      (outcome.value, outcome.journal)
  | .mailbox files =>
      let outcome := dialogue.run (Mailbox.link limitMs react).answer (files, remote) journal
      (outcome.value, outcome.journal)

end Endpoint

/-- What a session has brought. -/
structure SessionOutcome where
  result : Except SessionError RunReport
  /-- The progress, if the place for it was opened. -/
  journal : Option Journal

namespace Settings

def run {ρ : Type u} (settings : Settings) (tree : FileTree) (platform : PlatformConfig)
    (react : Reaction ρ) (remote : ρ) : SessionOutcome :=
  let agent := Agent.standard (settings.fixtures platform)
  match Endpoint.connect settings tree platform with
  | .error cause => { result := .error (.settings cause), journal := none }
  | .ok endpoint =>
      match settings.openJournal tree with
      | .error cause => { result := .error (.settings cause), journal := none }
      | .ok journal =>
          let ((answer, _), written) :=
            endpoint.play settings.waitLimitMs react remote
              (agent.conduct settings.protocols endpoint.name 0) journal
          { result := answer.mapError .registry, journal := some written }

end Settings

end PlatformAudit
