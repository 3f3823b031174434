import PlatformAudit.Payload.Field

/-!
# What all protocols share

The identifiers of the known protocols, and the messages that every protocol answers.
-/

namespace PlatformAudit.Protocol

/-- Discovery of the platform itself.  Every platform has it. -/
def base : UInt8 := 0x10

def power : UInt8 := 0x11

def systemPower : UInt8 := 0x12

def performance : UInt8 := 0x13

def clock : UInt8 := 0x14

def sensor : UInt8 := 0x15

def versionMessage : UInt8 := 0x0

def attributesMessage : UInt8 := 0x1

def messageAttributesMessage : UInt8 := 0x2

def undefinedMessage : UInt8 := 0xFF

def minorField : Field :=
  .range "minor" 0 { msb := 15, lsb := 0 }

def majorField : Field :=
  .range "major" 0 { msb := 31, lsb := 16 }

def versionLayout : Layout where
  name := "protocol version"
  fields := [minorField, majorField]

def messageAttributesLayout : Layout where
  name := "message attributes"
  fields := [.word "attributes" 0]

def version (major minor : UInt16) : UInt32 :=
  (major.toUInt32 <<< 16) ||| minor.toUInt32

def nameWords : Nat := 4

end PlatformAudit.Protocol
