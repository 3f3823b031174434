import PlatformAudit.Plan.Gate

/-!
# Cases that all protocols share

Every protocol tells its version, and every protocol answers whether a command is implemented.
-/

namespace PlatformAudit.Protocol

def versionDescriptors (version : Option UInt32) : List Descriptor :=
  [ .checkIf minorField (version.map minorField.effectiveRange.read)
  , .checkIf majorField (version.map majorField.effectiveRange.read) ]

def messageAttributesDescriptors : List Descriptor :=
  messageAttributesLayout.descriptors

def askForEach (messages : List UInt8) : Script Execution :=
  (Course.forEach messages fun message =>
    (Course.note "message id" .info (Text.hex message.toNat)).bind fun _ =>
      (Script.checkedCommand [message.toUInt32]).bind fun _ => .done ()).bind fun _ =>
    .done .handled

end PlatformAudit.Protocol
