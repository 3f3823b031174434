import PlatformAudit.Payload.FixedText
import PlatformAudit.Platform.Handler
import PlatformAudit.Protocol.Power.Messages

/-!
# The power protocol of a platform

A platform that keeps a state for each power domain.  Setting a state takes effect at once; a
command that asks for a late completion is told so by a delayed response, and an agent that has
asked for it is told about each change by a notification.
-/

namespace PlatformAudit.Power

/-- A power domain as it is configured. -/
structure DomainConfig where
  name : String
  initialState : UInt32 := stateOn
  deferred : Bool := true
  notify : Bool := true
deriving Repr

/-- The power protocol as it is configured. -/
structure Config where
  version : UInt32 := Protocol.version 2 0
  domains : List DomainConfig := [{ name := "cpu0" }, { name := "cpu1" }, { name := "gpu" }]
  stateNotify : Bool := false
deriving Repr

/-- A power domain of a running platform. -/
structure Domain where
  config : DomainConfig
  state : UInt32
  subscribed : Bool
deriving Repr

/-- The power protocol of a running platform. -/
structure Service where
  version : UInt32
  stateNotify : Bool
  domains : List Domain
deriving Repr

/-- The agent that every change is ascribed to. -/
def callingAgent : UInt32 := 1

/-- The domain attributes word: what the domain supports.  Every domain can be set at once. -/
def DomainConfig.attributesWord (config : DomainConfig) : UInt32 :=
  let withNotify := notifySupport.overwrite 0 config.notify.toUInt32
  let withDeferred := deferredSupport.overwrite withNotify config.deferred.toUInt32
  immediateSupport.overwrite withDeferred 1

namespace Service

/-- A platform that has just started: initial states, and nobody has asked for anything. -/
def start (config : Config) : Service where
  version := config.version
  stateNotify := config.stateNotify
  domains := config.domains.map fun domain =>
    { config := domain, state := domain.initialState, subscribed := false }

def state? (service : Service) (domain : Nat) : Option UInt32 :=
  service.domains[domain]?.map (·.state)

def domain (service : Service) (number : UInt32) : Except Status Domain :=
  match service.domains[number.toNat]? with
  | some domain => .ok domain
  | none => .error .notFound

def withDomain (service : Service) (number : UInt32) (domain : Domain) : Service :=
  { service with domains := service.domains.set number.toNat domain }

def implements (service : Service) (message : UInt32) : Bool :=
  if message = Power.stateNotify.toUInt32 then service.stateNotify
  else message ≤ stateGet.toUInt32

def setState (header : Header) (parameters : List UInt32) :
    Handling Service (List UInt32) := do
  let flags ← parameter parameters 0
  let number ← parameter parameters 1
  let state ← parameter parameters 2
  if flags &&& ~~~deferredFlag.mask ≠ 0 then throw .invalidParameters
  else if state ≠ stateOn ∧ state ≠ stateOff then throw .invalidParameters
  else
    let deferred := deferredFlag.read flags ≠ 0
    let service ← Handling.state
    let domain ← service.domain number
    if deferred ∧ ¬domain.config.deferred then throw .notSupported
    else
      Handling.change (service.withDomain number { domain with state })
      if deferred then
        Handling.post (.delayed header Status.success.code [number, state])
      if domain.subscribed then
        Handling.post (.notification Protocol.power stateChanged [callingAgent, number, state])
      return []

def subscribe (parameters : List UInt32) : Handling Service (List UInt32) := do
  let number ← parameter parameters 0
  let service ← Handling.state
  let domain ← service.domain number
  if ¬domain.config.notify then throw .notSupported
  else
    let wanted ← parameter parameters 1
    Handling.change (service.withDomain number { domain with subscribed := wanted &&& 1 ≠ 0 })
    return []

def perform (header : Header) (parameters : List UInt32) : Handling Service (List UInt32) := do
  let service ← Handling.state
  if header.message = Protocol.versionMessage then return [service.version]
  else if header.message = Protocol.attributesMessage then
    return [UInt32.ofNat service.domains.length, 0, 0, 0]
  else if header.message = Protocol.messageAttributesMessage then
    let asked ← parameter parameters 0
    if service.implements asked then return [0] else throw .notFound
  else if header.message = domainAttributes then
    let number ← parameter parameters 0
    let domain ← service.domain number
    return domain.config.attributesWord ::
      FixedText.encode domain.config.name Protocol.nameWords
  else if header.message = stateSet then setState header parameters
  else if header.message = stateGet then
    let number ← parameter parameters 0
    let domain ← service.domain number
    return [domain.state]
  else if header.message = Power.stateNotify ∧ service.stateNotify then subscribe parameters
  else throw .notFound

instance : Handler Service where
  respond service header parameters := .ofHandling service header (perform header parameters)

end Service

end PlatformAudit.Power
