import PlatformAudit.Plan.Case
import PlatformAudit.Text.Quoted

/-!
# Cases as text

One-line texts of cases, for people who look into a plan.  The hooks, the descriptors and the
description are left out.
-/

namespace PlatformAudit

def Status.inspect : Status → String
  | .success => "Success"
  | .notSupported => "NotSupported"
  | .invalidParameters => "InvalidParameters"
  | .denied => "Denied"
  | .notFound => "NotFound"
  | .outOfRange => "OutOfRange"
  | .busy => "Busy"
  | .commsError => "CommsError"
  | .genericError => "GenericError"
  | .hardwareError => "HardwareError"
  | .protocolError => "ProtocolError"

def ExpectedStatus.inspect : ExpectedStatus → String
  | .exact status => "Exact(" ++ status.inspect ++ ")"
  | .unspecified => "Unspecified"

def Parameters.inspect : Parameters → String
  | .fixed values => "Static(" ++ Inspect.numbers (values.map (·.toNat)) ++ ")"
  | .discovered => "Discovered"

def PreconditionRole.inspect : PreconditionRole → String
  | .none => "None"
  | .define => "Define"
  | .use => "Use"

def Case.inspect (case : Case) : String :=
  Inspect.partialRecord "TestCase"
    [ ("id", Text.inQuotes case.id)
    , ("protocol_id", Text.decimal case.protocol.toNat)
    , ("message_id", Text.decimal case.message.toNat)
    , ("params", case.parameters.inspect)
    , ("invalid_param", "InvalidParam(" ++ Text.decimal case.slotNumber ++ ")")
    , ("expected_status", case.expectedStatus.inspect)
    , ("precondition", case.precondition.inspect) ]

end PlatformAudit
