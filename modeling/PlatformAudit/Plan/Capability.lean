import PlatformAudit.Message.Status
import PlatformAudit.Report.Verdict

/-!
# Capabilities

Some commands are optional.  Whether the suite that exercises such a command runs depends on what
the platform answers when it is asked for the command, and on what was declared beforehand.
-/

namespace PlatformAudit

/-- What was declared about an optional command. -/
structure Capability where
  /-- The declared commands, one bit for each, or all bits if every command is declared. -/
  declared : UInt32 := 0
  /-- Whether the command has to be there if it is declared. -/
  supported : Bool := false
deriving DecidableEq, Repr

namespace Capability

def allCommands : UInt32 := 0xFFFFFFFF

/-- The bit of a command in a mask.  Commands from 32 on have none. -/
def commandBit (message : UInt8) : UInt32 :=
  if message < 32 then 1 <<< message.toUInt32 else 0

def declares (mask bit : UInt32) : Bool :=
  mask = allCommands ∨ mask &&& bit ≠ 0

/-- Whether a suite runs, and the check that says why. -/
structure Decision where
  mustRun : Bool
  outcome : Verdict
  detail : String
deriving DecidableEq, Repr

/-- Decides about the suite of a command by the status that the platform answered.  A declared
command has to be answered with success if it is supported and as not found otherwise.  A command
that was not declared is reported, and its suite runs if the platform has it nevertheless.  Any
other status is an error. -/
def decide (capability : Capability) (bit : UInt32) (message : UInt8) (observed : Int32) :
    Decision :=
  let success := Status.success.code
  let notFound := Status.notFound.code
  let subject := "message " ++ Text.hex message.toNat
  if observed ≠ success ∧ observed ≠ notFound then
    { mustRun := false
      outcome := .error
      detail := subject ++ ": unexpected status " ++ statusText observed }
  else if declares capability.declared bit then
    let expected := if capability.supported then success else notFound
    if observed = expected then
      { mustRun := capability.supported
        outcome := .passed
        detail := subject ++ ": " ++ statusText observed }
    else
      { mustRun := false
        outcome := .failed
        detail := subject ++ ": expected " ++ statusText expected ++ ", got " ++
          statusText observed }
  else
    { mustRun := observed = success
      outcome := .info
      detail := subject ++ " not declared, platform answered " ++ statusText observed }

end Capability

end PlatformAudit
