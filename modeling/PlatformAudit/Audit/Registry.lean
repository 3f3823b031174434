import PlatformAudit.Plan.Case
import PlatformAudit.Protocol.ProtocolMap

/-!
# Registered plans

A registry holds one plan for each protocol.  A plan is looked over before it is taken: all its
cases have to belong to its protocol, and whatever they expect has to lie inside the largest
answer.
-/

namespace PlatformAudit

/-- Why plans cannot be registered or run. -/
inductive RegistryError where
  | duplicateProtocol (protocol : UInt8)
  | missingBase
  | foreignCase (protocol : UInt8) (case : String)
  /-- A case expects something behind the largest answer. -/
  | fieldOutOfRange (case field : String)
  | unknownProtocol (protocol : UInt8)
deriving DecidableEq, Repr

def RegistryError.message : RegistryError → String
  | .duplicateProtocol protocol => "protocol " ++ Text.hexByte protocol ++ " registered twice"
  | .missingBase => "no base protocol module registered"
  | .foreignCase protocol case =>
      "case " ++ case ++ " does not belong to protocol " ++ Text.hexByte protocol
  | .fieldOutOfRange case field =>
      "case " ++ case ++ ": field " ++ field ++ " lies outside the return payload"
  | .unknownProtocol protocol => "protocol " ++ Text.hexByte protocol ++ " has no test module"

namespace Case

/-- All descriptors in the table of a case: those of its answer, then those of its late
completion. -/
def descriptors (case : Case) : List Descriptor :=
  case.returns ++ case.delayed.getD []

def fault? (protocol : UInt8) (case : Case) : Option RegistryError :=
  if case.protocol ≠ protocol then some (.foreignCase protocol case.id)
  else
    (case.descriptors.find? fun descriptor => ¬descriptor.field.FitsPayload).map
      fun descriptor => .fieldOutOfRange case.id descriptor.field.name

end Case

namespace Plan

def cases (plan : Plan) : List Case :=
  plan.suites.flatMap Suite.active

/-- What is wrong with the first faulty case of a plan, if there is one. -/
def fault? (plan : Plan) : Option RegistryError :=
  plan.cases.findSome? (Case.fault? plan.protocol)

end Plan

abbrev Registry := ProtocolMap Plan

namespace Registry

/-- Answers a plan that is offered, and leaves the registry behind.  The plan is taken if its
protocol has none yet and nothing is wrong with it. -/
def answerOffer (registry : Registry) (plan : Plan) : Except RegistryError Unit × Registry :=
  if registry.contains plan.protocol then (.error (.duplicateProtocol plan.protocol), registry)
  else
    match plan.fault? with
    | some fault => (.error fault, registry)
    | none => (.ok (), registry.insert plan.protocol plan)

/-- The registry that has taken a plan, or why the plan is refused. -/
def register (registry : Registry) (plan : Plan) : Except RegistryError Registry :=
  match registry.answerOffer plan with
  | (.ok (), next) => .ok next
  | (.error cause, _) => .error cause

end Registry

end PlatformAudit
