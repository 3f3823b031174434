import PlatformAudit.Platform.Config
import PlatformAudit.Protocol.Base.Expectations
import PlatformAudit.Protocol.Power.Expectations

/-!
# Fixtures

A fixture tells the cases of a plan what was declared about the platform.  Each plan looks for the
kind of fixture that it understands and takes any other for none.
-/

namespace PlatformAudit

/-- What was declared about one protocol of a platform. -/
inductive Fixture where
  | base (expectations : Base.Expectations)
  | power (expectations : Power.Expectations)
  /-- For plans that ask for nothing but one optional command. -/
  | capability (capability : Capability)
  | number (value : UInt32)
deriving DecidableEq, Repr

namespace Fixture

def base? : Fixture → Option Base.Expectations
  | base expectations => some expectations
  | _ => none

def power? : Fixture → Option Power.Expectations
  | power expectations => some expectations
  | _ => none

def capability? : Fixture → Option Capability
  | capability value => some value
  | _ => none

def number? : Fixture → Option UInt32
  | number value => some value
  | _ => none

end Fixture

abbrev Fixtures := ProtocolMap Fixture

namespace Fixtures

def ofPlatform (config : PlatformConfig) : Fixtures :=
  let withBase := ProtocolMap.empty.insert Protocol.base (.base (.ofConfig config.base))
  match config.power with
  | none => withBase
  | some power => withBase.insert Protocol.power (.power (.ofConfig power))

def inspect (fixtures : Fixtures) : String :=
  Inspect.record "PlatformInfo"
    [("protocols", Inspect.numbers (fixtures.ids.map (·.toNat)))]

end Fixtures

end PlatformAudit
