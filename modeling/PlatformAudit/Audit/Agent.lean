import PlatformAudit.Audit.PlanRun
import PlatformAudit.Audit.Registry
import PlatformAudit.Protocol.Base.Plan
import PlatformAudit.Protocol.Power.Plan

/-!
# Agents

An agent audits a whole platform.  It runs the base plan first.  Then it goes through the other
plans that are asked for, in ascending order of their protocols, and runs those whose protocol the
platform has listed.  Nothing is asked if there is no base plan or if a protocol is asked for that
has no plan.
-/

namespace PlatformAudit

def Registry.standard : Registry :=
  (ProtocolMap.empty.insert Base.plan.protocol Base.plan).insert Power.plan.protocol Power.plan

/-- Plans, and what was declared about the platform. -/
structure Agent where
  plans : Registry := .empty
  fixtures : Fixtures := .empty

namespace Agent

def standard (fixtures : Fixtures) : Agent where
  plans := .standard
  fixtures := fixtures

/-- Whether a protocol is asked for.  Asking for none asks for all. -/
def selects (selection : List UInt8) (protocol : UInt8) : Bool :=
  selection.isEmpty || selection.contains protocol

/-- What an audit carries along between its protocols. -/
structure Progress where
  report : RunReport
  /-- The token of the next command. -/
  token : UInt16

namespace Progress

def withProtocol (progress : Progress) (report : ProtocolReport) (token : UInt16) :
    Progress where
  report := progress.report.push report
  token := token

def withNotImplemented (progress : Progress) (protocol : UInt8) : Progress :=
  { progress with report := progress.report.pushNotImplemented protocol }

end Progress

def isFollowing (selection : List UInt8) (protocol : UInt8) : Bool :=
  protocol ≠ Protocol.base && selects selection protocol

def following (agent : Agent) (selection : List UInt8) : List Plan :=
  (agent.plans.entries.filter fun entry => isFollowing selection entry.1).map (·.2)

/-- Runs plans in order.  A plan whose protocol is not listed is reported and not run. -/
def runFollowing (agent : Agent) (listed : List UInt32) :
    List Plan → Progress → Dialogue Progress
  | [], progress => .done progress
  | plan :: rest, progress =>
      if listed.contains plan.protocol.toUInt32 then
        let fixture := agent.fixtures.get? plan.protocol
        (plan.runFrom fixture progress.token).bind fun (report, state) =>
          agent.runFollowing listed rest (progress.withProtocol report state.token)
      else
        .say ("\n" ++ plan.title ++ ": not implemented") <|
          agent.runFollowing listed rest (progress.withNotImplemented plan.protocol)

def auditFrom (agent : Agent) (base : Plan) (selection : List UInt8) (transport : String)
    (token : UInt16) : Dialogue Progress :=
  (base.runFrom (agent.fixtures.get? Protocol.base) token).bind fun (report, state) =>
    let listed := state.context.discovered.list Entity.protocols
    let progress : Progress :=
      { report := RunReport.push { transport } report, token := state.token }
    (agent.runFollowing listed (agent.following selection) progress).bind fun progress =>
      .say ("\nTOTAL " ++ progress.report.totals.text) (.done progress)

def audit (agent : Agent) (base : Plan) (selection : List UInt8) (transport : String) :
    Dialogue RunReport :=
  (agent.auditFrom base selection transport 0).bind fun progress => .done progress.report

/-- The base plan that an audit begins with, or why it cannot begin. -/
def opening (agent : Agent) (selection : List UInt8) : Except RegistryError Plan :=
  match agent.plans.get? Protocol.base with
  | none => .error .missingBase
  | some base =>
      match selection.find? fun protocol => !agent.plans.contains protocol with
      | some unknown => .error (.unknownProtocol unknown)
      | none => .ok base

/-- Conducts an audit from a token on, and leaves the token behind that is next. -/
def conduct (agent : Agent) (selection : List UInt8) (transport : String) (token : UInt16) :
    Dialogue (Except RegistryError RunReport × UInt16) :=
  match agent.opening selection with
  | .error cause => .done (.error cause, token)
  | .ok base =>
      (agent.auditFrom base selection transport token).bind fun progress =>
        .done (.ok progress.report, progress.token)

/-- The audit of a platform by the plans that are asked for, or why it cannot begin. -/
def run (agent : Agent) (selection : List UInt8) (transport : String) :
    Except RegistryError (Dialogue RunReport) :=
  (agent.opening selection).map fun base => agent.audit base selection transport

end Agent

end PlatformAudit
