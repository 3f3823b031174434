import PlatformAudit.Audit.Registry
import PlatformAudit.Text.Json

/-!
# Listings of plans

The registered plans with their suites and cases, for people or as a document.
-/

namespace PlatformAudit

def Plan.listingLines (plan : Plan) : List String :=
  ["## " ++ plan.name ++ " (" ++ Text.hexByte plan.protocol ++ ")"]
    ++ plan.suites.flatMap (fun suite =>
      ("  " ++ suite.name) :: suite.active.map fun case => "    " ++ case.id)
    ++ [""]

def Plan.listingDocument (plan : Plan) : Json :=
  .object
    [ ("protocol_id", .number plan.protocol.toNat)
    , ("name", .string plan.name)
    , ("suites", .array (plan.suites.map fun suite =>
        .object
          [ ("name", .string suite.name)
          , ("cases", .array (suite.active.map fun case => .string case.id)) ])) ]

def Registry.listing (registry : Registry) : String :=
  String.join
    ((registry.entries.flatMap fun entry => entry.2.listingLines).map (· ++ "\n"))

def Registry.listingDocument (registry : Registry) : Json :=
  .array (registry.entries.map fun entry => entry.2.listingDocument)

end PlatformAudit
