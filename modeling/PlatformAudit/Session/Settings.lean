import PlatformAudit.Link.Error
import PlatformAudit.Audit.Registry
import PlatformAudit.Text.Numeral

/-!
# Settings of a session

Which platform to audit, over which link, by which plans, and where the progress goes.
-/

namespace PlatformAudit

/-- The kinds of links that a session can use. -/
inductive TransportKind where
  | mock
  | mailbox
deriving DecidableEq, Repr

/-- What a session is to do. -/
structure Settings where
  transport : TransportKind := .mock
  message : Option String := none
  signal : Option String := none
  notification : Option String := none
  /-- How long to wait for the platform, in milliseconds. -/
  limitMs : Option Nat := none
  /-- The file that the progress goes to; without one it goes to the console. -/
  log : Option String := none
  quiet : Bool := false
  /-- The protocols that are asked for besides base.  None asks for all. -/
  protocols : List UInt8 := []
deriving DecidableEq, Repr

/-- Why settings cannot be used. -/
inductive SettingsError where
  | missingPath (role : String)
  | badProtocolId (text : String)
  | log (path : String) (fault : Fault)
  | transport (cause : LinkError)
deriving DecidableEq, Repr

namespace SettingsError

def message : SettingsError → String
  | .missingPath role => "mailbox transport needs a " ++ role ++ " file path"
  | .badProtocolId text => "invalid protocol id: " ++ text
  | .log path fault => "cannot open log file " ++ path ++ ": " ++ fault.message
  | .transport cause => "transport: " ++ cause.message

def cause? : SettingsError → Option String
  | .log _ fault => some fault.message
  | .transport cause => some cause.message
  | _ => none

end SettingsError

/-- Why a session could not begin. -/
inductive SessionError where
  | settings (cause : SettingsError)
  | registry (cause : RegistryError)
deriving DecidableEq, Repr

def SessionError.message : SessionError → String
  | .settings cause => cause.message
  | .registry cause => cause.message

/-- Reads a protocol identifier, in hexadecimal behind `0x` or `0X` and in decimal otherwise. -/
def readProtocolId (text : String) : Except SettingsError UInt8 :=
  let value :=
    match text.toList with
    | '0' :: 'x' :: digits => Text.unsigned? 16 255 digits
    | '0' :: 'X' :: digits => Text.unsigned? 16 255 digits
    | digits => Text.unsigned? 10 255 digits
  match value with
  | some id => .ok (UInt8.ofNat id)
  | none => .error (.badProtocolId text)

end PlatformAudit
