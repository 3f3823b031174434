import PlatformAudit.Protocol.Cases

/-!
# The plan of the power protocol

Four suites: discovery, the attributes of the domains, setting and reading states, and telling about
changes.  The last one runs only if the platform implements the command that it needs.
-/

namespace PlatformAudit.Power

def discoverySuite : Nat := 0

def domainSuite : Nat := 1

def stateSuite : Nat := 2

def notifySuite : Nat := 3

def mandatory : List UInt8 :=
  [ Protocol.versionMessage, Protocol.attributesMessage, Protocol.messageAttributesMessage
  , domainAttributes, stateSet, stateGet ]

def expectations? (context : Context) : Option Expectations :=
  context.fixture.bind Fixture.power?

/-- What was declared about an optional command; nothing if there are no expectations. -/
def declaredCapability (message : UInt8) (context : Context) : Capability :=
  match expectations? context with
  | some expectations => expectations.capability message
  | none => {}

def keepAttributes (response : Response) : List Effect :=
  match response.word? 0 with
  | none => []
  | some word =>
      if response.Succeeded then
        let domains := domainCount.read word
        [ .discover (.setValue Entity.domainCount domains)
        , .discover (.record Entity.domains ((List.range domains.toNat).map UInt32.ofNat)) ]
      else []

def declaredDomain? (context : Context) (domain : UInt32) : Option DomainExpectation :=
  (expectations? context).bind fun expectations => expectations.domains[domain.toNat]?

def domainDescriptors (context : Context) (domain : UInt32) : List Descriptor :=
  let declared := (declaredDomain? context domain).getD {}
  [ .checkIf notifySupportField (declared.notify.map (·.toUInt32))
  , .checkIf deferredSupportField (declared.deferred.map (·.toUInt32))
  , .display immediateSupportField
  , .reserved domainReservedField
  , .checkTextIf domainNameField declared.name ]

def discoverDomains : Script Execution :=
  Course.context.bind fun context =>
    match context.discovered.list Entity.domains with
    | [] =>
        (Course.note "domains" .skip "no power domains discovered").bind fun _ => .done .handled
    | domains =>
        (Course.forEach domains fun domain =>
          .expect (domainDescriptors context domain) <|
            (Script.checkedCommand [domain]).bind fun _ => .done ()).bind fun _ =>
          .done .handled

/-- The first domain that was not announced, or the largest word if nothing was announced. -/
def firstUnannounced (context : Context) : UInt32 :=
  (context.discovered.value? Entity.domainCount).getD 0xFFFFFFFF

/-- The status that a deferred set command of a domain has to have.  A domain that is declared not
to support it has to refuse. -/
def deferredSetStatus (domain : UInt32) (context : Context) : Option ExpectedStatus := do
  let declared ← declaredDomain? context domain
  let deferred ← declared.deferred
  return .exact (if deferred then .success else .notSupported)

def watchedDomain : UInt32 := 0

def notificationCheck (notification : Response) : Check where
  name := "notification"
  outcome :=
    if notification.header.protocol = Protocol.power ∧ notification.header.message = stateChanged
    then .passed else .failed
  detail := notification.header.text

def changeDescriptors : List Descriptor :=
  [ (Descriptor.display changedAgentField).decimal
  , (Descriptor.check changedDomainField watchedDomain).decimal
  , .check changedStateField stateOn ]

def noteChange (notification : Response) : Script Unit :=
  .perform (.check (notificationCheck notification)) <|
    .noteReturns changeDescriptors notification.returns

/-- Asks to be told about changes of a domain, changes it, waits to be told, and asks not to be told
any more. -/
def watchChange : Script Execution :=
  .checked { parameters := [watchedDomain, 1] } fun
    | none => .done .handled
    | some enabled =>
        if enabled.Succeeded then
          .send stateSet [0, watchedDomain, stateOn] fun
            | none => .done .handled
            | some set =>
                (Course.noteStatus "state set" (.exact .success) set.status).bind fun _ =>
                  .await .notification fun notification =>
                    ((notification.map noteChange).getD (.done ())).bind fun _ =>
                      .checked { parameters := [watchedDomain, 0] } fun _ => .done .handled
        else .done .handled

def fillExpected (message : UInt8) (context : Context) : Option (List Descriptor) :=
  if message = Protocol.versionMessage then
    some (Protocol.versionDescriptors ((expectations? context).bind (·.version)))
  else if message = Protocol.attributesMessage then
    some
      ((Descriptor.checkIf domainCountField ((expectations? context).bind (·.domainCount))).decimal
        :: attributesLayout.descriptors.drop 1)
  else none

private def powerCase (id : String) (message : UInt8) (description : String) : Case where
  id := id
  protocol := Protocol.power
  message := message
  description := description

def discoveryCases : List Case :=
  [ powerCase "power.version" Protocol.versionMessage "protocol version"
  , { powerCase "power.attributes" Protocol.attributesMessage "domain count" with
      hooks := { afterResponse := fun response => .performs (keepAttributes response) } }
  , { powerCase "power.message_attributes.mandatory" Protocol.messageAttributesMessage
        "mandatory commands are implemented" with
      returns := Protocol.messageAttributesDescriptors
      hooks := { execute := Protocol.askForEach mandatory } }
  , { powerCase "power.message_attributes.state_notify" Protocol.messageAttributesMessage
        "POWER_STATE_NOTIFY capability" with
      parameters := .fixed [stateNotify.toUInt32]
      expectedStatus := .unspecified
      hooks :=
        Gate.hooks
          { suite := notifySuite
            message := stateNotify
            capability := declaredCapability stateNotify } }
  , { powerCase "power.invalid_message" Protocol.undefinedMessage "undefined message id" with
      expectedStatus := .exact .notFound } ]

def domainCases : List Case :=
  [ { powerCase "power.domain_attributes" domainAttributes "every discovered domain" with
      parameters := .discovered
      hooks := { execute := discoverDomains } }
  , { powerCase "power.domain_attributes.invalid_domain" domainAttributes
        "domain id past the last domain" with
      parameters := .fixed [0]
      invalidSlot := Case.slot? 0
      expectedStatus := .exact .notFound
      hooks := { invalidValue := firstUnannounced } } ]

def stateCases : List Case :=
  let deferred := deferredFlag.mask
  [ { powerCase "power.state_set" stateSet "synchronous set of domain 0 to OFF" with
      parameters := .fixed [0, 0, stateOff]
      precondition := .define }
  , { powerCase "power.state_get" stateGet "domain 0 reads back OFF" with
      parameters := .fixed [0]
      returns := [.check stateField stateOff]
      precondition := .use }
  , { powerCase "power.state_set.async" stateSet "asynchronous set of domain 1 to OFF" with
      parameters := .fixed [deferred, 1, stateOff]
      delayed :=
        some [(Descriptor.check completedDomainField 1).decimal, .check completedStateField stateOff]
      hooks := { expectedStatus := deferredSetStatus 1 } }
  , { powerCase "power.state_set.invalid_flags" stateSet "reserved flag bits set" with
      parameters := .fixed [~~~deferred, 0, stateOn]
      expectedStatus := .exact .invalidParameters }
  , { powerCase "power.state_set.invalid_domain" stateSet "domain id past the last domain" with
      parameters := .fixed [0, 0, stateOn]
      invalidSlot := Case.slot? 1
      expectedStatus := .exact .notFound
      hooks := { invalidValue := firstUnannounced } }
  , { powerCase "power.state_get.invalid_domain" stateGet "domain id past the last domain" with
      parameters := .fixed [0]
      invalidSlot := Case.slot? 0
      expectedStatus := .exact .notFound
      hooks := { invalidValue := firstUnannounced } } ]

def notifyCases : List Case :=
  [ { powerCase "power.state_notify" stateNotify "state change on domain 0 is notified" with
      parameters := .discovered
      hooks := { execute := watchChange } }
  , { powerCase "power.state_notify.invalid_domain" stateNotify
        "domain id past the last domain" with
      parameters := .fixed [0, 1]
      invalidSlot := Case.slot? 0
      expectedStatus := .exact .notFound
      hooks := { invalidValue := firstUnannounced } } ]

def plan : Plan where
  protocol := Protocol.power
  name := "power domain"
  suites :=
    [ .ofCases "power discovery" discoveryCases
    , .ofCases "power domain attributes" domainCases
    , .ofCases "power state" stateCases
    , .ofCases "power state notify" notifyCases ]
  discoverySuite := discoverySuite
  fillExpected := fillExpected

end PlatformAudit.Power
