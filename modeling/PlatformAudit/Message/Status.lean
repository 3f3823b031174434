import PlatformAudit.Text.Number

/-!
# Statuses

A platform answers a command with a signed status.  The known statuses are the constructors of
`Status`; a platform that does not conform may send any other number, so the raw number travels
with the answer and is named only when it is shown.
-/

namespace PlatformAudit

/-- A status that the protocols define. -/
inductive Status where
  | success
  | notSupported
  | invalidParameters
  | denied
  | notFound
  | outOfRange
  | busy
  | commsError
  | genericError
  | hardwareError
  | protocolError
deriving DecidableEq, Repr

namespace Status

def all : List Status :=
  [ .success, .notSupported, .invalidParameters, .denied, .notFound, .outOfRange, .busy
  , .commsError, .genericError, .hardwareError, .protocolError ]

def code : Status → Int32
  | .success => 0
  | .notSupported => -1
  | .invalidParameters => -2
  | .denied => -3
  | .notFound => -4
  | .outOfRange => -5
  | .busy => -6
  | .commsError => -7
  | .genericError => -8
  | .hardwareError => -9
  | .protocolError => -10

def name : Status → String
  | .success => "SUCCESS"
  | .notSupported => "NOT_SUPPORTED"
  | .invalidParameters => "INVALID_PARAMETERS"
  | .denied => "DENIED"
  | .notFound => "NOT_FOUND"
  | .outOfRange => "OUT_OF_RANGE"
  | .busy => "BUSY"
  | .commsError => "COMMS_ERROR"
  | .genericError => "GENERIC_ERROR"
  | .hardwareError => "HARDWARE_ERROR"
  | .protocolError => "PROTOCOL_ERROR"

def text (status : Status) : String :=
  status.name ++ " (" ++ Text.signed status.code.toInt ++ ")"

def ofCode? (raw : Int32) : Option Status :=
  all.find? fun status => status.code = raw

end Status

/-- A number that is no status. -/
structure UnknownStatus where
  raw : Int32
deriving DecidableEq, Repr

def UnknownStatus.message (unknown : UnknownStatus) : String :=
  "unknown status: " ++ Text.signed unknown.raw.toInt

/-- The number that stands for "any status" in a test table.  No platform status has it. -/
def unspecifiedStatus : Int32 := -100

def statusText (raw : Int32) : String :=
  match Status.ofCode? raw with
  | some status => status.text
  | none =>
      if raw = unspecifiedStatus then "UNSPECIFIED"
      else "UNKNOWN (" ++ Text.signed raw.toInt ++ ")"

/-- The status that a case expects. -/
inductive ExpectedStatus where
  | exact (status : Status)
  | unspecified
deriving DecidableEq, Repr

namespace ExpectedStatus

def ofRaw (raw : Int32) : Except UnknownStatus ExpectedStatus :=
  if raw = unspecifiedStatus then .ok .unspecified
  else
    match Status.ofCode? raw with
    | some status => .ok (.exact status)
    | none => .error ⟨raw⟩

def raw : ExpectedStatus → Int32
  | .exact status => status.code
  | .unspecified => unspecifiedStatus

def accepts (expected : ExpectedStatus) (observed : Int32) : Bool :=
  match expected with
  | .exact status => status.code = observed
  | .unspecified => true

def text : ExpectedStatus → String
  | .exact status => status.text
  | .unspecified => "UNSPECIFIED"

end ExpectedStatus

end PlatformAudit
