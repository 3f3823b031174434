import PlatformAudit.Plan.Capability
import PlatformAudit.Protocol.Power.Service

/-!
# What is declared about the power protocol

Expectations come from whoever knows the platform.  What is not known is shown and not checked.
-/

namespace PlatformAudit.Power

/-- What is declared about a power domain. -/
structure DomainExpectation where
  name : Option String := none
  deferred : Option Bool := none
  notify : Option Bool := none
deriving DecidableEq, Repr

/-- What a platform is declared to answer to power commands. -/
structure Expectations where
  version : Option UInt32 := none
  domainCount : Option UInt32 := none
  /-- The declared optional commands. -/
  declared : UInt32 := 0
  /-- The declared optional commands that have to be there. -/
  supported : UInt32 := 0
  domains : List DomainExpectation := []
deriving DecidableEq, Repr

namespace Expectations

def ofConfig (config : Config) : Expectations where
  version := some config.version
  domainCount := some (UInt32.ofNat config.domains.length)
  declared := Capability.allCommands
  supported := if config.stateNotify then Capability.commandBit stateNotify else 0
  domains := config.domains.map fun domain =>
    { name := some domain.name, deferred := some domain.deferred, notify := some domain.notify }

def capability (expectations : Expectations) (message : UInt8) : Capability where
  declared := expectations.declared
  supported := expectations.supported &&& Capability.commandBit message ≠ 0

end Expectations

end PlatformAudit.Power
