import PlatformAudit.Session.Settings

/-!
# Arguments

The words of a command line.  Options have long names only, and a value either follows its option or
is joined to it by an equals sign.  No option may be given twice, except the one for protocols.  The
paths of the mailbox files may also come from the environment.
-/

namespace PlatformAudit.CommandLine

/-- Options without a value. -/
inductive Flag where
  | quiet
  | mockStateNotify
  | mockNoDiscoverAgent
  | list
deriving DecidableEq, Repr

def Flag.ofName? (name : String) : Option Flag :=
  match name with
  | "quiet" => some .quiet
  | "mock-state-notify" => some .mockStateNotify
  | "mock-no-discover-agent" => some .mockNoDiscoverAgent
  | "list" => some .list
  | _ => none

/-- Options with a value. -/
inductive Key where
  | transport
  | message
  | signal
  | notification
  | limitMs
  | log
  | protocol
  | format
deriving DecidableEq, Repr

def Key.ofName? (name : String) : Option Key :=
  match name with
  | "transport" => some .transport
  | "message" => some .message
  | "signal" => some .signal
  | "notification" => some .notification
  | "timeout-ms" => some .limitMs
  | "log" => some .log
  | "protocol" => some .protocol
  | "format" => some .format
  | _ => none

/-- An option as it was given. -/
inductive Item where
  | flag (flag : Flag)
  | value (key : Key) (text : String)
deriving DecidableEq, Repr

/-- Why a command line is refused. -/
inductive Refusal where
  | unexpectedWord (word : String)
  | unexpectedValue (word : String)
  | missingValue (word : String)
  | givenTwice
  | badValue (text : String)
deriving DecidableEq, Repr

def Refusal.message : Refusal → String
  | .unexpectedWord word => "unexpected argument: " ++ word
  | .unexpectedValue word => "option takes no value: " ++ word
  | .missingValue word => "option needs a value: " ++ word
  | .givenTwice => "an option is given more than once"
  | .badValue text => "invalid value: " ++ text

/-- The name of an option and the value that is joined to it, if the word is an option. -/
def splitOption? (word : String) : Option (String × Option String) :=
  match word.toList with
  | '-' :: '-' :: body =>
      let name := String.ofList (body.takeWhile (· ≠ '='))
      match body.dropWhile (· ≠ '=') with
      | [] => some (name, none)
      | _ :: value => some (name, some (String.ofList value))
  | _ => none

/-- Whether a word can be the value of the option in front of it.  A word that begins with a hyphen
cannot, unless it is nothing but a hyphen. -/
def canBeValue (word : String) : Bool :=
  match word.toList with
  | '-' :: _ :: _ => false
  | _ => true

/-- Groups the words of a command line.  Behind two lone hyphens there may be nothing more. -/
def readItems : List String → Except Refusal (List Item)
  | [] => .ok []
  | "--" :: [] => .ok []
  | "--" :: word :: _ => .error (.unexpectedWord word)
  | word :: rest =>
      match splitOption? word with
      | none => .error (.unexpectedWord word)
      | some (name, joined) =>
          match Flag.ofName? name, Key.ofName? name, joined with
          | some flag, _, none => (readItems rest).map (.flag flag :: ·)
          | some _, _, some _ => .error (.unexpectedValue word)
          | none, none, _ => .error (.unexpectedWord word)
          | none, some key, some value => (readItems rest).map (.value key value :: ·)
          | none, some key, none =>
              match rest with
              | [] => .error (.missingValue word)
              | value :: behind =>
                  if canBeValue value then (readItems behind).map (.value key value :: ·)
                  else .error (.missingValue word)

def Item.mayRepeat : Item → Bool
  | .value .protocol _ => true
  | _ => false

def Item.kind : Item → Flag ⊕ Key
  | .flag given => .inl given
  | .value key _ => .inr key

def hasRepetition (items : List Item) : Bool :=
  ¬((items.filter (!·.mayRepeat)).map Item.kind).Nodup

def valuesOf (key : Key) (items : List Item) : List String :=
  items.filterMap fun item =>
    match item with
    | .value other text => if other = key then some text else none
    | .flag _ => none

/-- Paths of mailbox files that come from the environment. -/
structure Environment where
  message : Option String := none
  signal : Option String := none
  notification : Option String := none
deriving DecidableEq, Repr

namespace Environment

def messageVariable : String := "SCMI_MAILBOX_MESSAGE"

def signalVariable : String := "SCMI_MAILBOX_SIGNAL"

def notificationVariable : String := "SCMI_MAILBOX_NOTIFICATION"

def ofVariables (valueOf? : String → Option String) : Environment where
  message := valueOf? messageVariable
  signal := valueOf? signalVariable
  notification := valueOf? notificationVariable

end Environment

/-- What a command line asks for. -/
structure Arguments where
  settings : Settings := {}
  stateNotify : Bool := false
  discoverAgent : Bool := true
  list : Bool := false
  format : String := "text"
deriving DecidableEq, Repr

def readTransport : Option String → Except Refusal TransportKind
  | none | some "mock" => .ok .mock
  | some "mailbox" => .ok .mailbox
  | some text => .error (.badValue text)

def readPath : Option String → Except Refusal (Option String)
  | none => .ok none
  | some path => if path.isEmpty then .error (.badValue path) else .ok (some path)

def readLimit : Option String → Except Refusal (Option Nat)
  | none => .ok none
  | some text =>
      match Text.unsigned? 10 (UInt64.size - 1) text.toList with
      | some limit => .ok (some limit)
      | none => .error (.badValue text)

def readProtocols : List String → Except Refusal (List UInt8)
  | [] => .ok []
  | text :: rest =>
      match readProtocolId text with
      | .ok id => (readProtocols rest).map (id :: ·)
      | .error cause => .error (.badValue cause.message)

namespace Arguments

def ofItems (items : List Item) (environment : Environment) : Except Refusal Arguments := do
  let value? (key : Key) : Option String := (valuesOf key items).head?
  let given (flag : Flag) : Bool := items.contains (.flag flag)
  let transport ← readTransport (value? .transport)
  let message ← readPath ((value? .message).or environment.message)
  let signal ← readPath ((value? .signal).or environment.signal)
  let notification ← readPath ((value? .notification).or environment.notification)
  let limitMs ← readLimit (value? .limitMs)
  let log ← readPath (value? .log)
  let protocols ← readProtocols (valuesOf .protocol items)
  return {
    settings :=
      { transport, message, signal, notification, limitMs, log, protocols, quiet := given .quiet }
    stateNotify := given .mockStateNotify
    discoverAgent := !given .mockNoDiscoverAgent
    list := given .list
    format := (value? .format).getD "text" }

def read (words : List String) (environment : Environment) : Except Refusal Arguments := do
  let items ← readItems words
  if hasRepetition items then .error .givenTwice else ofItems items environment

/-- Whether documents are asked for.  Every other format is a text. -/
def wantsDocument (arguments : Arguments) : Bool :=
  arguments.format = "json"

/-- The settings of the session.  Progress on the console would get in the way of a document. -/
def sessionSettings (arguments : Arguments) : Settings :=
  let settings := arguments.settings
  { settings with
    quiet := settings.quiet || (arguments.wantsDocument && settings.log.isNone) }

end Arguments

end PlatformAudit.CommandLine
