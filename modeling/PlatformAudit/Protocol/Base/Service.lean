import PlatformAudit.Payload.ProtocolList
import PlatformAudit.Platform.Handler
import PlatformAudit.Protocol.Base.Messages

/-!
# The base protocol of a platform

A platform that answers base commands from its configuration.  It has no state of its own: no base
command changes anything.
-/

namespace PlatformAudit.Base

/-- What a platform says of itself. -/
structure Config where
  version : UInt32 := Protocol.version 2 0
  vendor : String := "scmi-mock"
  subVendor : String := "conformance"
  implementationVersion : UInt32 := 0x00010000
  /-- The implemented protocols other than base, in the order in which they are listed. -/
  protocols : List UInt8 := [0x11, 0x12, 0x13, 0x14, 0x15, 0x16]
  /-- Names of the agents 1, 2 and so on.  Agent 0 is the platform. -/
  agents : List String := ["OSPM", "PSCI"]
  /-- Protocols listed by one command, at least one. -/
  pageSize : Nat := 4
  discoverAgent : Bool := true
deriving Repr

namespace Config

def implements (config : Config) (message : UInt32) : Bool :=
  if message = Base.discoverAgent.toUInt32 then config.discoverAgent
  else message ≤ discoverListProtocols.toUInt32

def attributesWord (config : Config) : UInt32 :=
  agentCount.overwrite (protocolCount.overwrite 0 (UInt32.ofNat config.protocols.length))
    (UInt32.ofNat config.agents.length)

def page (config : Config) (skip : Nat) : List UInt8 :=
  (config.protocols.drop skip).take (max config.pageSize 1)

def agentName? (config : Config) (agent : UInt32) : Option String :=
  match agent.toNat with
  | 0 => some "platform"
  | position + 1 => config.agents[position]?

def returns (config : Config) (message : UInt8) (parameters : List UInt32) :
    Except Status (List UInt32) :=
  if message = Protocol.versionMessage then .ok [config.version]
  else if message = Protocol.attributesMessage then .ok [config.attributesWord]
  else if message = Protocol.messageAttributesMessage then do
    let asked ← parameter parameters 0
    if config.implements asked then .ok [0] else .error .notFound
  else if message = discoverVendor then .ok (FixedText.encode config.vendor Protocol.nameWords)
  else if message = discoverSubVendor then
    .ok (FixedText.encode config.subVendor Protocol.nameWords)
  else if message = discoverImplementationVersion then .ok [config.implementationVersion]
  else if message = discoverListProtocols then do
    let skip ← parameter parameters 0
    if config.protocols.length < skip.toNat then .error .invalidParameters
    else
      let page := config.page skip.toNat
      .ok (UInt32.ofNat page.length :: ProtocolList.pack page)
  else if message = Base.discoverAgent ∧ config.discoverAgent then do
    let agent ← parameter parameters 0
    match config.agentName? agent with
    | some name => .ok (agent :: FixedText.encode name Protocol.nameWords)
    | none => .error .notFound
  else .error .notFound

instance : Handler Config where
  respond config header parameters :=
    { response := .ofResult header (config.returns header.message parameters), next := config }

end Config

end PlatformAudit.Base
