import PlatformAudit.Protocol.Cases
import PlatformAudit.Word.Addition

/-!
# The plan of the base protocol

Four suites: discovery, identification, the list of protocols, and the agents.  The suite of the
agents runs only if the platform implements the command that it needs.
-/

namespace PlatformAudit.Base

def discoverySuite : Nat := 0

def identificationSuite : Nat := 1

def protocolListSuite : Nat := 2

def agentSuite : Nat := 3

def mandatory : List UInt8 :=
  [ Protocol.versionMessage, Protocol.attributesMessage, Protocol.messageAttributesMessage
  , discoverVendor, discoverSubVendor, discoverImplementationVersion, discoverListProtocols ]

def expectations? (context : Context) : Option Expectations :=
  context.fixture.bind Fixture.base?

/-- What was declared about an optional command; nothing if there are no expectations. -/
def declaredCapability (message : UInt8) (context : Context) : Capability :=
  match expectations? context with
  | some expectations => expectations.capability message
  | none => {}

/-- Keeps the announced numbers of protocols and agents, and the identifiers of the agents. -/
def keepAttributes (response : Response) : List Effect :=
  match response.word? 0 with
  | none => []
  | some word =>
      if response.Succeeded then
        let agents := agentCount.read word
        [ .discover (.setValue Entity.protocolCount (protocolCount.read word))
        , .discover (.setValue Entity.agentCount agents)
        , .discover (.record Entity.agents
            ((List.range agents.toNat).map fun position => UInt32.ofNat (position + 1))) ]
      else []

def entryCount (response : Response) : UInt32 :=
  (response.word? 0).getD 0

def readPage (total skip : UInt32) (response : Response) : Except String (List UInt8) :=
  let count := entryCount response
  if count = 0 then
    .error
      ("empty page at skip " ++ Text.decimal skip.toNat ++ " of " ++ Text.decimal total.toNat)
  else
    let ids := ProtocolList.unpack (response.returns.drop 1) count.toNat
    if ids.length = count.toNat then .ok ids
    else
      .error
        ("page announces " ++ Text.decimal count.toNat ++ " protocols but carries " ++
          Text.decimal ids.length)

/-- A page that is accepted is not empty, and holds what it says. -/
theorem length_of_readPage {total skip : UInt32} {response : Response} {ids : List UInt8}
    (accepted : readPage total skip response = .ok ids) :
    0 < ids.length ∧ ids.length = (entryCount response).toNat := by
  unfold readPage at accepted
  dsimp only at accepted
  split at accepted
  · cases accepted
  · rename_i notEmpty
    split at accepted
    · rename_i complete
      cases accepted
      refine ⟨?_, complete⟩
      rw [complete]
      exact Nat.pos_of_ne_zero fun zero => notEmpty (UInt32.toNat_inj.mp zero)
    · cases accepted

/-- Lists protocols page by page until as many are skipped as were announced.  A failed command, a
refusal or a page that is wrong ends the list.  So does a page so long that what it would have to be
skipped next is no word. -/
def listPages (total skip : UInt32) (found : List UInt8) : Script (List UInt8) :=
  if skip < total then
    .checked { parameters := [skip] } fun
      | none => .done found
      | some response =>
          if response.Succeeded then
            match _ : readPage total skip response with
            | .error detail => (Course.note "page" .failed detail).bind fun _ => .done found
            | .ok ids =>
                match _ : Word.add? skip (entryCount response) with
                | none => .done (found ++ ids)
                | some next => listPages total next (found ++ ids)
          else .done found
  else .done found
termination_by total.toNat - skip.toNat
decreasing_by
  rename_i incomplete _ accepted added
  have positive := length_of_readPage accepted
  have sum := Word.toNat_of_add? added
  have below := UInt32.lt_iff_toNat_lt.mp incomplete
  omega

/-- One page of the list, without the bookkeeping that shows that it ends. -/
theorem listPages_eq (total skip : UInt32) (found : List UInt8) :
    listPages total skip found =
      if skip < total then
        .checked { parameters := [skip] } fun
          | none => .done found
          | some response =>
              if response.Succeeded then
                match readPage total skip response with
                | .error detail => (Course.note "page" .failed detail).bind fun _ => .done found
                | .ok ids =>
                    match Word.add? skip (entryCount response) with
                    | none => .done (found ++ ids)
                    | some next => listPages total next (found ++ ids)
              else .done found
      else .done found := by
  rw [listPages]
  split
  · congr 1
    funext answer
    cases answer with
    | none => rfl
    | some response =>
        dsimp only
        split
        · split
          · simp [*]
          · split <;> simp [*]
        · rfl
  · rfl

def countCheck (total : Nat) (found : List UInt8) : Check :=
  if found.length = total then
    { name := "protocols listed", outcome := .passed, detail := Text.decimal total }
  else
    { name := "protocols listed"
      outcome := .failed
      detail := "expected " ++ Text.decimal total ++ ", listed " ++ Text.decimal found.length }

/-- A list without those entries that are followed by the same one. -/
def withoutRuns : List UInt8 → List UInt8
  | first :: second :: rest =>
      if first = second then withoutRuns (second :: rest)
      else first :: withoutRuns (second :: rest)
  | short => short

def listCheck (found : List UInt8) : Check :=
  if (withoutRuns found.mergeSort).length = found.length ∧ Protocol.base ∉ found then
    { name := "protocol ids"
      outcome := .info
      detail := " ".intercalate (found.map fun id => Text.hex id.toNat) }
  else
    { name := "protocol ids"
      outcome := .failed
      detail := "list repeats a protocol or names the base protocol" }

def listProtocols : Script Execution :=
  Course.context.bind fun context =>
    match context.discovered.value? Entity.protocolCount with
    | none =>
        (Course.note "protocol count" .error "attributes did not report a protocol count").bind
          fun _ => .done .handled
    | some total =>
        (listPages total 0 []).bind fun found =>
          .perform (.check (countCheck total.toNat found)) <|
            .perform (.check (listCheck found)) <|
              .perform (.discover (.record Entity.protocols (found.map (·.toUInt32)))) <|
                .done .handled

/-- One more than an announced number, or the largest word if nothing was announced. -/
def pastAnnounced (entity : String) (context : Context) : UInt32 :=
  match context.discovered.value? entity with
  | some announced => announced + 1
  | none => 0xFFFFFFFF

def agentDescriptors (context : Context) (agent : UInt32) : List Descriptor :=
  [ (Descriptor.check agentIdField agent).decimal
  , .checkTextIf agentNameField
      ((expectations? context).bind fun expectations => expectations.agentName? agent) ]

def discoverAgents : Script Execution :=
  Course.context.bind fun context =>
    match context.discovered.list Entity.agents with
    | [] => (Course.note "agents" .skip "no agents discovered").bind fun _ => .done .handled
    | agents =>
        (Course.forEach agents fun agent =>
          .expect (agentDescriptors context agent) <|
            (Script.checkedCommand [agent]).bind fun _ => .done ()).bind fun _ =>
          .done .handled

def fillExpected (message : UInt8) (context : Context) : Option (List Descriptor) :=
  let known {α : Type} (part : Expectations → Option α) : Option α :=
    (expectations? context).bind part
  if message = Protocol.versionMessage then
    some (Protocol.versionDescriptors (known (·.version)))
  else if message = Protocol.attributesMessage then
    some
      [ (Descriptor.checkIf protocolCountField (known (·.protocolCount))).decimal
      , (Descriptor.checkIf agentCountField (known (·.agentCount))).decimal
      , .reserved attributesReservedField ]
  else if message = discoverVendor then some [.checkTextIf vendorField (known (·.vendor))]
  else if message = discoverSubVendor then some [.checkTextIf vendorField (known (·.subVendor))]
  else if message = discoverImplementationVersion then
    some [.checkIf implementationVersionField (known (·.implementationVersion))]
  else none

private def baseCase (id : String) (message : UInt8) (description : String) : Case where
  id := id
  protocol := Protocol.base
  message := message
  description := description

def discoveryCases : List Case :=
  [ baseCase "base.version" Protocol.versionMessage "protocol version"
  , { baseCase "base.attributes" Protocol.attributesMessage "protocol and agent counts" with
      hooks := { afterResponse := fun response => .performs (keepAttributes response) } }
  , { baseCase "base.message_attributes.mandatory" Protocol.messageAttributesMessage
        "mandatory commands are implemented" with
      returns := Protocol.messageAttributesDescriptors
      hooks := { execute := Protocol.askForEach mandatory } }
  , { baseCase "base.message_attributes.discover_agent" Protocol.messageAttributesMessage
        "DISCOVER_AGENT capability" with
      parameters := .fixed [discoverAgent.toUInt32]
      expectedStatus := .unspecified
      returns := Protocol.messageAttributesDescriptors
      hooks :=
        Gate.hooks
          { suite := agentSuite
            message := discoverAgent
            capability := declaredCapability discoverAgent } }
  , { baseCase "base.message_attributes.invalid" Protocol.messageAttributesMessage
        "attributes of an undefined command" with
      parameters := .fixed [Protocol.undefinedMessage.toUInt32]
      expectedStatus := .exact .notFound }
  , { baseCase "base.invalid_message" Protocol.undefinedMessage "undefined message id" with
      expectedStatus := .exact .notFound } ]

def identificationCases : List Case :=
  [ baseCase "base.vendor" discoverVendor "vendor"
  , baseCase "base.sub_vendor" discoverSubVendor "sub-vendor"
  , baseCase "base.implementation_version" discoverImplementationVersion
      "implementation version" ]

def protocolListCases : List Case :=
  [ { baseCase "base.list_protocols" discoverListProtocols "list every implemented protocol" with
      parameters := .discovered
      returns := [(Descriptor.display pageCountField).decimal]
      hooks := { execute := listProtocols } }
  , { baseCase "base.list_protocols.invalid_skip" discoverListProtocols
        "skip past the last protocol" with
      parameters := .fixed [0]
      invalidSlot := Case.slot? 0
      expectedStatus := .exact .invalidParameters
      hooks := { invalidValue := pastAnnounced Entity.protocolCount } } ]

def agentCases : List Case :=
  [ { baseCase "base.discover_agent" discoverAgent "every announced agent" with
      parameters := .discovered
      hooks := { execute := discoverAgents } }
  , { baseCase "base.discover_agent.invalid" discoverAgent "agent id past the last agent" with
      parameters := .fixed [0]
      invalidSlot := Case.slot? 0
      expectedStatus := .exact .notFound
      hooks := { invalidValue := pastAnnounced Entity.agentCount } } ]

def plan : Plan where
  protocol := Protocol.base
  name := "base"
  suites :=
    [ .ofCases "base discovery" discoveryCases
    , .ofCases "base identification" identificationCases
    , .ofCases "base protocol list" protocolListCases
    , .ofCases "base discover agent" agentCases ]
  discoverySuite := discoverySuite
  fillExpected := fillExpected

end PlatformAudit.Base
