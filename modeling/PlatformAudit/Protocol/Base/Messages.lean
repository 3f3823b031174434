import PlatformAudit.Protocol.Messages

/-!
# Messages of the base protocol

The base protocol tells who made the platform, which protocols it implements and which agents it
knows.
-/

namespace PlatformAudit.Base

def discoverVendor : UInt8 := 0x3

def discoverSubVendor : UInt8 := 0x4

def discoverImplementationVersion : UInt8 := 0x5

def discoverListProtocols : UInt8 := 0x6

/-- Message: the name of an agent.  A platform may leave it out. -/
def discoverAgent : UInt8 := 0x7

def protocolCount : BitRange where
  msb := 7
  lsb := 0

def agentCount : BitRange where
  msb := 15
  lsb := 8

def protocolCountField : Field :=
  .range "num_protocols" 0 protocolCount

def agentCountField : Field :=
  .range "num_agents" 0 agentCount

def attributesReservedField : Field :=
  .range "reserved" 0 { msb := 31, lsb := 16 }

def attributesLayout : Layout where
  name := "base protocol attributes"
  fields := [protocolCountField, agentCountField, attributesReservedField]

def vendorField : Field :=
  .text "vendor_identifier" 0 Protocol.nameWords

def vendorLayout : Layout where
  name := "discover vendor"
  fields := [vendorField]

def implementationVersionField : Field :=
  .word "implementation_version" 0

def implementationVersionLayout : Layout where
  name := "discover implementation version"
  fields := [implementationVersionField]

/-- The number of protocols on a page.  Their identifiers follow, packed four to a word. -/
def pageCountField : Field :=
  .word "num_protocols" 0

def listProtocolsLayout : Layout where
  name := "discover list protocols"
  fields := [pageCountField]

def agentIdField : Field :=
  .word "agent_id" 0

def agentNameField : Field :=
  .text "name" 1 Protocol.nameWords

def agentLayout : Layout where
  name := "discover agent"
  fields := [agentIdField, agentNameField]

end PlatformAudit.Base
