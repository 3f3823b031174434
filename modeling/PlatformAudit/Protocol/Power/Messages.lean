import PlatformAudit.Protocol.Messages

/-!
# Messages of the power protocol

The power protocol switches power domains on and off, at once or later, and tells agents about
changes.
-/

namespace PlatformAudit.Power

def domainAttributes : UInt8 := 0x3

def stateSet : UInt8 := 0x4

def stateGet : UInt8 := 0x5

/-- Message: ask to be told about changes of a domain.  A platform may leave it out. -/
def stateNotify : UInt8 := 0x6

def stateChanged : UInt8 := 0x0

def deferredFlag : BitRange where
  msb := 0
  lsb := 0

def stateOn : UInt32 := 0x00000000

def stateOff : UInt32 := 0x40000000

def domainCount : BitRange where
  msb := 15
  lsb := 0

def domainCountField : Field :=
  .range "num_domains" 0 domainCount

def attributesReservedField : Field :=
  .range "reserved" 0 { msb := 31, lsb := 16 }

def attributesLayout : Layout where
  name := "power protocol attributes"
  fields :=
    [ domainCountField
    , attributesReservedField
    , .word "stats_address_low" 1
    , .word "stats_address_high" 2
    , .word "stats_length" 3 ]

def notifySupport : BitRange where
  msb := 31
  lsb := 31

def deferredSupport : BitRange where
  msb := 30
  lsb := 30

def immediateSupport : BitRange where
  msb := 29
  lsb := 29

def notifySupportField : Field :=
  .range "state_change_notification" 0 notifySupport

def deferredSupportField : Field :=
  .range "async_support" 0 deferredSupport

def immediateSupportField : Field :=
  .range "sync_support" 0 immediateSupport

def domainReservedField : Field :=
  .range "reserved" 0 { msb := 28, lsb := 0 }

def domainNameField : Field :=
  .text "name" 1 Protocol.nameWords

def domainAttributesLayout : Layout where
  name := "power domain attributes"
  fields :=
    [ notifySupportField, deferredSupportField, immediateSupportField, domainReservedField
    , domainNameField ]

def stateField : Field :=
  .word "power_state" 0

def stateLayout : Layout where
  name := "power state get"
  fields := [stateField]

def changedAgentField : Field :=
  .word "agent_id" 0

def changedDomainField : Field :=
  .word "domain_id" 1

def changedStateField : Field :=
  .word "power_state" 2

def stateChangedLayout : Layout where
  name := "power state changed"
  fields := [changedAgentField, changedDomainField, changedStateField]

def completedDomainField : Field :=
  .word "domain_id" 0

def completedStateField : Field :=
  .word "power_state" 1

def stateSetCompleteLayout : Layout where
  name := "power state set complete"
  fields := [completedDomainField, completedStateField]

end PlatformAudit.Power
