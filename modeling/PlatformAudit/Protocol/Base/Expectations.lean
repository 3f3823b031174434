import PlatformAudit.Plan.Capability
import PlatformAudit.Protocol.Base.Service

/-!
# What is declared about the base protocol

Expectations come from whoever knows the platform.  What is not known is shown and not checked.
-/

namespace PlatformAudit.Base

/-- What a platform is declared to answer to base commands. -/
structure Expectations where
  version : Option UInt32 := none
  vendor : Option String := none
  subVendor : Option String := none
  implementationVersion : Option UInt32 := none
  protocolCount : Option UInt32 := none
  agentCount : Option UInt32 := none
  /-- The declared optional commands. -/
  declared : UInt32 := 0
  /-- The declared optional commands that have to be there. -/
  supported : UInt32 := 0
  agentNames : List String := []
deriving DecidableEq, Repr

namespace Expectations

def ofConfig (config : Config) : Expectations where
  version := some config.version
  vendor := some config.vendor
  subVendor := some config.subVendor
  implementationVersion := some config.implementationVersion
  protocolCount := some (UInt32.ofNat config.protocols.length)
  agentCount := some (UInt32.ofNat config.agents.length)
  declared := Capability.allCommands
  supported := if config.discoverAgent then Capability.commandBit discoverAgent else 0
  agentNames := config.agents

def capability (expectations : Expectations) (message : UInt8) : Capability where
  declared := expectations.declared
  supported := expectations.supported &&& Capability.commandBit message ≠ 0

def agentName? (expectations : Expectations) (agent : UInt32) : Option String :=
  match agent.toNat with
  | 0 => none
  | position + 1 => expectations.agentNames[position]?

end Expectations

end PlatformAudit.Base
