import Mathlib.Data.List.Nodup
import Mathlib.Data.List.Perm.Subperm
import PlatformAudit.Protocol.Base.Plan
import PlatformAudit.Proofs.Payload.Packing
import PlatformAudit.Proofs.Platform.RunningPlatform
import PlatformAudit.Proofs.Protocol.CommonCases
import PlatformAudit.Proofs.Protocol.Distinct
import PlatformAudit.Proofs.Protocol.OptionalCommands
import PlatformAudit.Proofs.Word.BitRange

/-!
# The base protocol conforms to its plan

A platform that is configured sensibly passes all cases of the base plan if what is declared about
it is what it was configured to be.  Each case is followed from the standing that the cases before
it have left.
-/

namespace PlatformAudit.Base

open Dialogue PlanRun

/-- A configuration that the base protocol can tell an agent about. -/
structure Config.WellFormed (config : Config) : Prop where
  vendor : FixedText.Fits config.vendor Protocol.nameWords
  subVendor : FixedText.Fits config.subVendor Protocol.nameWords
  agentNames : config.discoverAgent = true →
    ∀ name ∈ config.agents, FixedText.Fits name Protocol.nameWords
  protocols_nodup : config.protocols.Nodup
  base_not_mem : Protocol.base ∉ config.protocols
  agents_length : config.agents.length ≤ 255

theorem Config.WellFormed.protocols_length {config : Config} (wellFormed : config.WellFormed) :
    config.protocols.length ≤ 255 := by
  have distinct : ((Protocol.base :: config.protocols).map UInt8.toNat).Nodup := by
    apply List.Nodup.map (fun _ _ => UInt8.toNat_inj.mp)
    exact List.nodup_cons.mpr ⟨wellFormed.base_not_mem, wellFormed.protocols_nodup⟩
  have inside : (Protocol.base :: config.protocols).map UInt8.toNat ⊆ List.range 256 := by
    intro number member
    obtain ⟨identifier, -, rfl⟩ := List.mem_map.mp member
    exact List.mem_range.mpr identifier.toNat_lt
  have length := (distinct.subperm inside).length_le
  simp only [List.map_cons, List.length_cons, List.length_map, List.length_range] at length
  omega

variable (config : Config) (power : Option Power.Service)

def standingAt (decisions : List SuiteDecision) (suite : Nat) (discovered : Discovery) :
    Standing where
  frame :=
    { fixture := some (.base (.ofConfig config))
      suiteNames := plan.suites.map (·.name)
      discoverySuite := discoverySuite
      decisions }
  suite := suite
  precondition := none
  discovered := discovered

variable {config} {decisions : List SuiteDecision} {suite : Nat} {discovered : Discovery}

theorem expectations?_eq {context : Context}
    (stands : context.standing = standingAt config decisions suite discovered) :
    expectations? context = some (.ofConfig config) := by
  have fixture : context.fixture = some (.base (.ofConfig config)) :=
    congrArg (fun standing => standing.frame.fixture) stands
  rw [expectations?, fixture]
  rfl

theorem answer_ok {case : Case} {parameters words : List UInt32}
    (protocol : case.protocol = Protocol.base) (fits : parameters.length ≤ maxPayloadWords)
    (returns : config.returns case.message parameters = .ok words) (token : UInt16) :
    Switchboard.link.answer (runningPlatform config power {})
        (.command (CaseRun.nextHeader case case.message token) parameters) =
      (.ok (.answering (CaseRun.nextHeader case case.message token) .success words),
        runningPlatform config power {}) := by
  have message : (CaseRun.nextHeader case case.message token).message = case.message := rfl
  rw [RunningPlatform.answer_base config power {} protocol fits, Config.reply, message, returns]
  rfl

theorem answer_refused {case : Case} {parameters : List UInt32} {status : Status}
    (protocol : case.protocol = Protocol.base) (fits : parameters.length ≤ maxPayloadWords)
    (returns : config.returns case.message parameters = .error status) (token : UInt16) :
    Switchboard.link.answer (runningPlatform config power {})
        (.command (CaseRun.nextHeader case case.message token) parameters) =
      (.ok (.answering (CaseRun.nextHeader case case.message token) status []),
        runningPlatform config power {}) := by
  have message : (CaseRun.nextHeader case case.message token).message = case.message := rfl
  rw [RunningPlatform.answer_base config power {} protocol fits, Config.reply, message, returns]
  rfl

/-- A part of the run of the base plan that leads from one standing to another. -/
abbrev Leading {α : Type} (config : Config) (power : Option Power.Service)
    (run : PlanRun α) (good : α → Prop) (before after : Standing) : Prop :=
  Cleanly Switchboard.link.answer run good (before.At (runningPlatform config power {}))
    (after.At (runningPlatform config power {}))

theorem version_clean :
    Leading config power (runCase plan discoveryCases[0]) CaseReport.IsClean
      (standingAt config decisions suite discovered)
      (standingAt config decisions suite discovered) := by
  apply Cleanly.plain ⟨rfl, rfl, fun _ => rfl, rfl, rfl⟩ rfl (fun _ _ => rfl)
    (answer_ok power rfl (by decide) rfl)
  intro _ context stands
  have expected : expectedReturns plan discoveryCases[0] context =
      Protocol.versionDescriptors ((expectations? context).bind (·.version)) := rfl
  rw [expected, expectations?_eq stands]
  exact Protocol.versionDescriptors_isClean config.version

section Attributes

variable (wellFormed : config.WellFormed)

theorem Config.WellFormed.protocols_toNat (wellFormed : config.WellFormed) :
    (UInt32.ofNat config.protocols.length).toNat = config.protocols.length := by
  apply toNat_ofNat_of_short
  exact Nat.le_trans wellFormed.protocols_length (by decide)

theorem Config.WellFormed.agents_toNat (wellFormed : config.WellFormed) :
    (UInt32.ofNat config.agents.length).toNat = config.agents.length := by
  apply toNat_ofNat_of_short
  exact Nat.le_trans wellFormed.agents_length (by decide)

theorem read_protocolCount (short : config.protocols.length ≤ 255) :
    protocolCount.read config.attributesWord = UInt32.ofNat config.protocols.length := by
  rw [Config.attributesWord, BitRange.read_overwrite_of_apart (by decide),
    BitRange.read_overwrite_of_fits]
  rw [UInt32.le_iff_toNat_le, toNat_ofNat_of_short (Nat.le_trans short (by decide))]
  exact short

include wellFormed

theorem read_agentCount :
    agentCount.read config.attributesWord = UInt32.ofNat config.agents.length := by
  have bound := wellFormed.agents_length
  rw [Config.attributesWord, BitRange.read_overwrite_of_fits]
  rw [UInt32.le_iff_toNat_le, wellFormed.agents_toNat]
  exact bound

omit wellFormed in
theorem read_attributesReserved :
    attributesReservedField.effectiveRange.read config.attributesWord = 0 := by
  rw [Config.attributesWord, BitRange.read_overwrite_of_apart (by decide),
    BitRange.read_overwrite_of_apart (by decide), BitRange.read_zero]

def announced (config : Config) : Discovery :=
  { values :=
      [ (Entity.protocolCount, UInt32.ofNat config.protocols.length)
      , (Entity.agentCount, UInt32.ofNat config.agents.length) ]
    lists :=
      [ (Entity.agents,
          (List.range config.agents.length).map fun position => UInt32.ofNat (position + 1)) ] }

theorem attributes_clean :
    Leading config power (runCase plan discoveryCases[1]) CaseReport.IsClean
      (standingAt config decisions suite {})
      (standingAt config decisions suite (announced config)) := by
  refine Cleanly.fixed (.performs rfl) rfl (fun _ _ => rfl) (fun _ _ => rfl)
    (answer_ok power rfl (by decide) rfl)
    (.inl rfl) (fun _ _ => ExpectedStatus.toCheck_exact_isClean .success "status")
    (fun _ context stands => ?_) fun context header stands => ?_
  · have expected : expectedReturns plan discoveryCases[1] context =
        [ (Descriptor.checkIf protocolCountField
            ((expectations? context).bind (·.protocolCount))).decimal
        , (Descriptor.checkIf agentCountField
            ((expectations? context).bind (·.agentCount))).decimal
        , .reserved attributesReservedField ] := rfl
    rw [expected, expectations?_eq stands]
    simp only [List.forall_mem_cons]
    refine ⟨?_, ?_, ?_, by simp⟩
    · exact Descriptor.toCheck_isClean_of_value rfl rfl rfl
        (read_protocolCount wellFormed.protocols_length)
    · exact Descriptor.toCheck_isClean_of_value rfl rfl rfl (read_agentCount wellFormed)
    · exact Descriptor.toCheck_isClean_of_reserved _ rfl read_attributesReserved
  · have kept : keepAttributes
        (.answering header .success [config.attributesWord]) =
          [ .discover (.setValue Entity.protocolCount (UInt32.ofNat config.protocols.length))
          , .discover (.setValue Entity.agentCount (UInt32.ofNat config.agents.length))
          , .discover (.record Entity.agents
              ((List.range config.agents.length).map fun position =>
                UInt32.ofNat (position + 1))) ] := by
      rw [← read_protocolCount wellFormed.protocols_length, ← read_agentCount wellFormed,
        ← wellFormed.agents_toNat, ← read_agentCount wellFormed]
      rfl
    rw [kept]
    refine ⟨by simp [Effect.checks], ?_⟩
    rw [Context.standing_settle _ (by decide)]
    simp only [List.foldl_cons, List.foldl_nil, Effect.apply, Context.standing_discover, stands]
    rfl

end Attributes

theorem mandatory_clean :
    Leading config power (runCase plan discoveryCases[2]) CaseReport.IsClean
      (standingAt config decisions suite discovered)
      (standingAt config decisions suite discovered) := by
  have returns : ∀ message ∈ mandatory,
      config.returns Protocol.messageAttributesMessage [message.toUInt32] = .ok [0] := by
    simp only [mandatory, List.forall_mem_cons]
    exact ⟨rfl, rfl, rfl, rfl, rfl, rfl, rfl, by simp⟩
  have hooks : discoveryCases[2].hooks = { execute := Protocol.askForEach mandatory } := rfl
  apply Cleanly.askForEach 0 hooks rfl rfl rfl (fun _ => rfl)
  intro message member token
  exact answer_ok power rfl (by simp [maxPayloadWords]) (returns message member) token

/-- Agents can be asked for by name if it is declared so. -/
theorem agentGate_capability {context : Context}
    (stands : context.standing = standingAt config decisions suite discovered) :
    agentGate.capability context =
      { declared := Capability.allCommands, supported := config.discoverAgent } := by
  have declared : agentGate.capability context = declaredCapability discoverAgent context := rfl
  rw [declared, declaredCapability, expectations?_eq stands]
  cases available : config.discoverAgent with
  | true =>
      simp only [Expectations.capability, Expectations.ofConfig, available]
      decide
  | false =>
      simp only [Expectations.capability, Expectations.ofConfig, available]
      decide

theorem probe_clean (below : suite < agentSuite) :
    Leading config power (runCase plan discoveryCases[3]) CaseReport.IsClean
      (standingAt config decisions suite discovered)
      ((standingAt config decisions suite discovered).decided agentSuite config.discoverAgent) := by
  have hooks : discoveryCases[3].hooks = agentGate.hooks := rfl
  have returns : config.returns Protocol.messageAttributesMessage [discoverAgent.toUInt32] =
      if config.discoverAgent then .ok [0] else .error .notFound := rfl
  refine Cleanly.probe (if config.discoverAgent then [0] else []) hooks rfl rfl rfl rfl rfl
    (fun token => ?_) (fun available context _ => ?_) (fun context => agentGate_capability)
    (by change 3 ≠ 0; decide) (by change 3 < 4; decide) below
  · cases available : config.discoverAgent with
    | true =>
        rw [available] at returns
        exact answer_ok power rfl (by decide) returns token
    | false =>
        rw [available] at returns
        exact answer_refused power rfl (by decide) returns token
  · rw [available]
    exact Protocol.messageAttributesDescriptors_isClean 0

theorem invalidMessageAttributes_clean :
    Leading config power (runCase plan discoveryCases[4]) CaseReport.IsClean
      (standingAt config decisions suite discovered)
      (standingAt config decisions suite discovered) := by
  exact Cleanly.refused ⟨rfl, rfl, fun _ => rfl, rfl, rfl⟩ rfl (by decide)
    (fun _ _ => rfl) (answer_refused power rfl (by decide) rfl)

theorem invalidMessage_clean :
    Leading config power (runCase plan discoveryCases[5]) CaseReport.IsClean
      (standingAt config decisions suite discovered)
      (standingAt config decisions suite discovered) := by
  exact Cleanly.refused ⟨rfl, rfl, fun _ => rfl, rfl, rfl⟩ rfl (by decide)
    (fun _ _ => rfl) (answer_refused power rfl (by decide) rfl)

section Identification

variable (wellFormed : config.WellFormed)

include wellFormed

theorem vendor_clean :
    Leading config power (runCase plan identificationCases[0]) CaseReport.IsClean
      (standingAt config decisions suite discovered)
      (standingAt config decisions suite discovered) := by
  apply Cleanly.plain ⟨rfl, rfl, fun _ => rfl, rfl, rfl⟩ rfl (fun _ _ => rfl)
    (answer_ok power rfl (by decide) rfl)
  intro _ context stands
  have expected : expectedReturns plan identificationCases[0] context =
      [.checkTextIf vendorField ((expectations? context).bind (·.vendor))] := rfl
  rw [expected, expectations?_eq stands, List.forall_mem_singleton]
  exact Descriptor.toCheck_isClean_of_text (Field.readText?_encode wellFormed.vendor _ [])

theorem subVendor_clean :
    Leading config power (runCase plan identificationCases[1]) CaseReport.IsClean
      (standingAt config decisions suite discovered)
      (standingAt config decisions suite discovered) := by
  apply Cleanly.plain ⟨rfl, rfl, fun _ => rfl, rfl, rfl⟩ rfl (fun _ _ => rfl)
    (answer_ok power rfl (by decide) rfl)
  intro _ context stands
  have expected : expectedReturns plan identificationCases[1] context =
      [.checkTextIf vendorField ((expectations? context).bind (·.subVendor))] := rfl
  rw [expected, expectations?_eq stands, List.forall_mem_singleton]
  exact Descriptor.toCheck_isClean_of_text (Field.readText?_encode wellFormed.subVendor _ [])

omit wellFormed in
theorem implementationVersion_clean :
    Leading config power (runCase plan identificationCases[2]) CaseReport.IsClean
      (standingAt config decisions suite discovered)
      (standingAt config decisions suite discovered) := by
  apply Cleanly.plain ⟨rfl, rfl, fun _ => rfl, rfl, rfl⟩ rfl (fun _ _ => rfl)
    (answer_ok power rfl (by decide) rfl)
  intro _ context stands
  have expected : expectedReturns plan identificationCases[2] context =
      [.checkIf implementationVersionField
        ((expectations? context).bind (·.implementationVersion))] := rfl
  rw [expected, expectations?_eq stands, List.forall_mem_singleton]
  exact Descriptor.toCheck_isClean_of_word rfl rfl rfl rfl

end Identification

private theorem past_toNat {count : Nat} (bound : count ≤ 255) :
    (UInt32.ofNat count + 1).toNat = count + 1 := by
  rw [UInt32.toNat_add, toNat_ofNat_of_short (by omega)]
  change (count + 1) % 4294967296 = count + 1
  omega

section ProtocolList

/-- The list can be read from any of its protocols on, and from behind the last one. -/
theorem Config.returns_skip (config : Config) (skip : UInt32) :
    config.returns discoverListProtocols [skip] =
      if config.protocols.length < skip.toNat then .error .invalidParameters
      else .ok (UInt32.ofNat (config.page skip.toNat).length ::
        ProtocolList.pack (config.page skip.toNat)) := rfl

variable (wellFormed : config.WellFormed)

def listed (config : Config) : Discovery :=
  (announced config).edit (.record Entity.protocols (config.protocols.map (·.toUInt32)))

include wellFormed

omit wellFormed in
theorem entryCount_answering (header : Header) (status : Status) (count : UInt32)
    (words : List UInt32) :
    entryCount (.answering header status (count :: words)) = count := rfl

omit wellFormed in
theorem readPage_clean (total skip : UInt32) {page : List UInt8} (notEmpty : page ≠ [])
    (short : page.length ≤ 255) (header : Header) :
    readPage total skip
      (.answering header .success (UInt32.ofNat page.length :: ProtocolList.pack page)) =
        .ok page := by
  have count : (UInt32.ofNat page.length).toNat = page.length :=
    toNat_ofNat_of_short (by omega)
  have positive : UInt32.ofNat page.length ≠ 0 := by
    intro zero
    rw [zero] at count
    exact notEmpty (List.length_eq_zero_iff.mp count.symm)
  simp [readPage, entryCount, Response.word?, Response.answering, count, positive,
    ProtocolList.unpack_pack]

omit wellFormed in
/-- A page that is not empty comes off what is left behind the protocols that are skipped. -/
theorem returns_page {found rest : List UInt8} (split : found ++ rest = config.protocols)
    (short : config.protocols.length ≤ 255) (incomplete : rest ≠ []) :
    ∃ page later, page ≠ [] ∧ page ++ later = rest ∧
      config.returns discoverListProtocols [UInt32.ofNat found.length] =
        .ok (UInt32.ofNat page.length :: ProtocolList.pack page) := by
  have lengths : found.length + rest.length = config.protocols.length := by
    rw [← split, List.length_append]
  have skip : (UInt32.ofNat found.length).toNat = found.length :=
    toNat_ofNat_of_short (by omega)
  have page : config.page found.length = rest.take (max config.pageSize 1) := by
    rw [Config.page, ← split, List.drop_left]
  refine ⟨rest.take (max config.pageSize 1), rest.drop (max config.pageSize 1), ?_,
    List.take_append_drop _ _, ?_⟩
  · apply List.ne_nil_of_length_pos
    have positive := List.length_pos_iff.mpr incomplete
    rw [List.length_take]
    omega
  · rw [Config.returns_skip, skip, page, if_neg (by omega)]

/-- What is left of the list is found page by page. -/
theorem listPages_clean {case : Case} (listing : case = protocolListCases[0]) {skip : UInt32}
    (found rest : List UInt8) (split : found ++ rest = config.protocols)
    (skipped : skip.toNat = found.length)
    {before : CaseState} (clean : before.IsClean) (expected : before.expected = case.returns) :
    Carries Switchboard.link.answer
      (CaseRun.playScript case (listPages (UInt32.ofNat config.protocols.length) skip found)) before
      (runningPlatform config power {})
      fun _ all after last =>
        all = config.protocols ∧ after.IsClean ∧ after.context = before.context ∧
          last = runningPlatform config power {} := by
  have message : case.message = discoverListProtocols := congrArg Case.message listing
  have accepts : CaseRun.statusFor case none before.context = .exact .success := by
    rw [listing]
    rfl
  have silent : case.hooks.afterResponse = fun _ => .done () := by
    rw [listing]
    rfl
  have displays : case.returns = [(Descriptor.display pageCountField).decimal] :=
    congrArg Case.returns listing
  -- Each page shortens what is left, since no page is empty.
  induction remaining : rest.length using Nat.strongRecOn generalizing skip found rest before with
  | _ left induction =>
      have lengths : found.length + rest.length = config.protocols.length := by
        rw [← split, List.length_append]
      have bound := wellFormed.protocols_length
      have goesOn : skip < UInt32.ofNat config.protocols.length ↔
          found.length < config.protocols.length := by
        rw [UInt32.lt_iff_toNat_lt, skipped, wellFormed.protocols_toNat]
      have asks : UInt32.ofNat found.length = skip := by
        rw [← skipped, UInt32.ofNat_toNat]
      rw [listPages_eq]
      by_cases complete : rest = []
      · subst complete
        have enough : ¬found.length < config.protocols.length := by
          rw [← lengths, List.length_nil]
          omega
        rw [if_neg (mt goesOn.mp enough)]
        exact ⟨by rw [← split, List.append_nil], clean, rfl, rfl⟩
      · obtain ⟨page, later, notEmpty, joined, returns⟩ := returns_page split bound complete
        have positive := List.length_pos_iff.mpr notEmpty
        have pages : page.length + later.length = rest.length := by
          rw [← joined, List.length_append]
        have incomplete : found.length < config.protocols.length := by omega
        rw [← message, asks] at returns
        have count : (UInt32.ofNat page.length).toNat = page.length :=
          toNat_ofNat_of_short (by omega)
        have sum : skip.toNat + (UInt32.ofNat page.length).toNat =
            (found ++ page).length := by
          rw [skipped, count, List.length_append]
        have fits : skip.toNat + (UInt32.ofNat page.length).toNat < UInt32.size := by
          rw [sum, List.length_append]
          exact Nat.lt_of_le_of_lt (by omega : _ ≤ 255) (by decide)
        have accepted : ((CaseRun.statusFor case none before.context).toCheck "status"
            Status.success.code).IsClean := by
          rw [accepts]
          exact ExpectedStatus.toCheck_exact_isClean .success "status"
        have shown : ∀ descriptor ∈ before.expected, (descriptor.toCheck
            (UInt32.ofNat page.length :: ProtocolList.pack page)).IsClean := by
          rw [expected, displays, List.forall_mem_singleton]
          exact Descriptor.toCheck_isClean_of_display rfl rfl rfl
        rw [if_pos (goesOn.mpr incomplete), CaseRun.carries_playScript_checked]
        apply (CaseRun.sendChecked_clean clean
          (answer_ok power (congrArg Case.protocol listing) (by simp [maxPayloadWords]) returns _)
          (congrArg Case.delayed listing) silent accepted fun _ => shown).mono
        intro _ value between last sent
        obtain ⟨rfl, rfl, betweenClean, context, betweenExpected⟩ := sent
        dsimp only
        rw [if_pos (Response.answering_succeeded _ _),
          readPage_clean _ skip notEmpty (by omega)]
        dsimp only
        rw [entryCount_answering, Word.add?_of_fits fits]
        have shorter : later.length < left := by omega
        have further := induction later.length shorter (found ++ page) later
          (by rw [List.append_assoc, joined, split])
          ((Word.toNat_of_add? (Word.add?_of_fits fits)).trans sum) betweenClean
          (betweenExpected.trans expected) (context ▸ accepts) rfl
        rw [context] at further
        exact further

theorem listProtocols_clean :
    Leading config power (runCase plan protocolListCases[0]) CaseReport.IsClean
      (standingAt config decisions suite (announced config))
      (standingAt config decisions suite (listed config)) := by
  apply Cleanly.scripted rfl
  intro start _ holds clean expects
  obtain ⟨stands, rfl⟩ := holds
  have discovered : start.context.discovered = announced config :=
    congrArg Standing.discovered stands
  have execute : protocolListCases[0].hooks.execute = listProtocols := rfl
  have count : (announced config).value? Entity.protocolCount =
      some (UInt32.ofNat config.protocols.length) := rfl
  rw [execute, listProtocols, CaseRun.carries_playScript_context, discovered, count]
  simp only [wellFormed.protocols_toNat]
  rw [CaseRun.carries_playScript_bind]
  apply (listPages_clean power wellFormed rfl [] config.protocols rfl rfl clean expects).mono
  intro _ found between last listed
  obtain ⟨rfl, betweenClean, context, rfl⟩ := listed
  have complete : (countCheck config.protocols.length config.protocols).IsClean := by
    simp [countCheck]
  have distinct : (listCheck config.protocols).IsClean := by
    simp [listCheck_eq, wellFormed.protocols_nodup, wellFormed.base_not_mem]
  simp only [CaseRun.play, carries_bind, CaseRun.carries_perform, carries_pure]
  refine ⟨trivial, ?_, ?_, rfl⟩
  · refine CaseState.IsClean.affected (CaseState.IsClean.affected
      (CaseState.IsClean.affected betweenClean ?_) ?_) ?_
    · simpa [Effect.checks] using complete
    · simpa [Effect.checks] using distinct
    · simp [Effect.checks]
  · simp only [CaseState.affected_context, List.foldl_cons, List.foldl_nil, Effect.apply,
      Context.standing_discover, context, stands]
    rfl

theorem invalidSkip_clean :
    Leading config power (runCase plan protocolListCases[1]) CaseReport.IsClean
      (standingAt config decisions suite (listed config))
      (standingAt config decisions suite (listed config)) := by
  have refused : config.returns discoverListProtocols
      [UInt32.ofNat config.protocols.length + 1] = .error .invalidParameters := by
    rw [Config.returns_skip, past_toNat wellFormed.protocols_length, if_pos (Nat.lt_succ_self _)]
  refine Cleanly.refused ⟨rfl, rfl, fun _ => rfl, rfl, rfl⟩ rfl (by decide)
    (fun context stands => ?_)
    (answer_refused power rfl (by simp [maxPayloadWords]) refused)
  have past : CaseRun.fixedParameters protocolListCases[1] context =
      .ok [pastAnnounced Entity.protocolCount context] := rfl
  have discovered : context.discovered = listed config := congrArg Standing.discovered stands
  rw [past, pastAnnounced, discovered]
  rfl

end ProtocolList

section Agents

variable (wellFormed : config.WellFormed) (named : config.discoverAgent = true)

theorem returns_agent (named : config.discoverAgent = true) (agent : UInt32) :
    config.returns discoverAgent [agent] =
      match config.agentName? agent with
      | some name => .ok (agent :: FixedText.encode name Protocol.nameWords)
      | none => .error .notFound := by
  have implemented : discoverAgent = Base.discoverAgent ∧ config.discoverAgent = true :=
    ⟨rfl, named⟩
  have returns : config.returns discoverAgent [agent] =
      if discoverAgent = Base.discoverAgent ∧ config.discoverAgent = true then
        match config.agentName? agent with
        | some name => .ok (agent :: FixedText.encode name Protocol.nameWords)
        | none => .error .notFound
      else .error .notFound := rfl
  rw [returns, if_pos implemented]

include wellFormed named

theorem discoverAgents_clean :
    Leading config power (runCase plan agentCases[0]) CaseReport.IsClean
      (standingAt config decisions suite (listed config))
      (standingAt config decisions suite (listed config)) := by
  apply Cleanly.scripted rfl
  intro start _ holds clean _
  obtain ⟨stands, rfl⟩ := holds
  have found : start.context.discovered.list Entity.agents =
      (List.range config.agents.length).map fun position => UInt32.ofNat (position + 1) := by
    have discovered : start.context.discovered = listed config :=
      congrArg Standing.discovered stands
    rw [discovered]
    rfl
  have execute : agentCases[0].hooks.execute = discoverAgents := rfl
  rw [execute, discoverAgents, CaseRun.carries_playScript_context]
  cases agents : start.context.discovered.list Entity.agents with
  | nil =>
      simp only [Course.note, Course.bind, CaseRun.play, carries_bind, CaseRun.carries_perform,
        carries_pure]
      exact ⟨trivial, clean.affected (by simp [Effect.checks]), stands, rfl⟩
  | cons first others =>
      dsimp only
      refine Cleanly.askAbout rfl (fun _ => rfl) rfl rfl (fun agent member => ?_) clean
        stands
      rw [← agents, found] at member
      obtain ⟨position, inside, rfl⟩ := List.mem_map.mp member
      have below : position < config.agents.length := List.mem_range.mp inside
      have bound := wellFormed.agents_length
      have number : (UInt32.ofNat (position + 1)).toNat = position + 1 :=
        toNat_ofNat_of_short (by omega)
      have known : config.agentName? (UInt32.ofNat (position + 1)) =
          some config.agents[position] := by
        rw [Config.agentName?, number]
        exact List.getElem?_eq_getElem below
      have declared : (Expectations.ofConfig config).agentName? (UInt32.ofNat (position + 1)) =
          some config.agents[position] := by
        rw [Expectations.agentName?, number]
        exact List.getElem?_eq_getElem below
      have returns := returns_agent named (UInt32.ofNat (position + 1))
      rw [known] at returns
      refine ⟨_, answer_ok power rfl (by simp [maxPayloadWords]) returns, ?_⟩
      have fits := wellFormed.agentNames named _ (List.getElem_mem below)
      simp only [agentDescriptors, expectations?_eq stands, Option.bind_some, declared,
        List.forall_mem_cons]
      refine ⟨?_, ?_, by simp⟩
      · exact Descriptor.toCheck_isClean_of_word rfl rfl rfl rfl
      · exact Descriptor.toCheck_isClean_of_text
          (Field.readText?_encode fits _ [UInt32.ofNat (position + 1)])

theorem invalidAgent_clean :
    Leading config power (runCase plan agentCases[1]) CaseReport.IsClean
      (standingAt config decisions suite (listed config))
      (standingAt config decisions suite (listed config)) := by
  have unknown : config.agentName? (UInt32.ofNat config.agents.length + 1) = none := by
    rw [Config.agentName?, past_toNat wellFormed.agents_length]
    exact List.getElem?_eq_none (Nat.le_refl _)
  have returns := returns_agent named (UInt32.ofNat config.agents.length + 1)
  rw [unknown] at returns
  refine Cleanly.refused ⟨rfl, rfl, fun _ => rfl, rfl, rfl⟩ rfl (by decide)
    (fun context stands => ?_)
    (answer_refused power rfl (by simp [maxPayloadWords]) returns)
  have past : CaseRun.fixedParameters agentCases[1] context =
      .ok [pastAnnounced Entity.agentCount context] := rfl
  have discovered : context.discovered = listed config := congrArg Standing.discovered stands
  rw [past, pastAnnounced, discovered]
  rfl

end Agents

section Suites

variable (wellFormed : config.WellFormed)

include wellFormed

theorem discoverySuite_clean :
    Leading config power (runSuite plan (.ofCases "base discovery" discoveryCases) discoverySuite)
      SuiteReport.IsClean (standingAt config [] 0 {})
      ((standingAt config [] 0 (announced config)).decided agentSuite config.discoverAgent) := by
  apply Cleanly.runSuite (fun _ none => absurd none List.not_mem_nil)
  apply Cleanly.runCases_cons 0 (version_clean power)
  apply Cleanly.runCases_cons 1 (attributes_clean power wellFormed)
  apply Cleanly.runCases_cons 2 (mandatory_clean power)
  apply Cleanly.runCases_cons 3 (probe_clean power (by decide))
  apply Cleanly.runCases_cons 4 (invalidMessageAttributes_clean power)
  exact Cleanly.runCases_cons 5 (invalidMessage_clean power) (Cleanly.runCases_nil 6)

theorem identificationSuite_clean :
    Leading config power
      (runSuite plan (.ofCases "base identification" identificationCases) identificationSuite)
      SuiteReport.IsClean
      ((standingAt config [] 0 (announced config)).decided agentSuite config.discoverAgent)
      ((standingAt config [] identificationSuite (announced config)).decided agentSuite
        config.discoverAgent) := by
  apply Cleanly.runSuite (List.forall_mem_singleton.mpr (by change 3 ≠ 1; decide))
  apply Cleanly.runCases_cons 0 (vendor_clean power wellFormed)
  apply Cleanly.runCases_cons 1 (subVendor_clean power wellFormed)
  exact Cleanly.runCases_cons 2 (implementationVersion_clean power) (Cleanly.runCases_nil 3)

theorem protocolListSuite_clean :
    Leading config power
      (runSuite plan (.ofCases "base protocol list" protocolListCases) protocolListSuite)
      SuiteReport.IsClean
      ((standingAt config [] identificationSuite (announced config)).decided agentSuite
        config.discoverAgent)
      ((standingAt config [] protocolListSuite (listed config)).decided agentSuite
        config.discoverAgent) := by
  apply Cleanly.runSuite (List.forall_mem_singleton.mpr (by change 3 ≠ 2; decide))
  apply Cleanly.runCases_cons 0 (listProtocols_clean power wellFormed)
  exact Cleanly.runCases_cons 1 (invalidSkip_clean power wellFormed) (Cleanly.runCases_nil 2)

theorem agentSuite_clean :
    Leading config power (runSuite plan (.ofCases "base discover agent" agentCases) agentSuite)
      SuiteReport.IsClean
      ((standingAt config [] protocolListSuite (listed config)).decided agentSuite
        config.discoverAgent)
      ((standingAt config [] agentSuite (listed config)).decided agentSuite
        config.discoverAgent) := by
  refine Cleanly.runGated (by change 3 ≠ 0; decide) (fun named => ?_) fun _ => ⟨rfl, rfl⟩
  apply Cleanly.runCases_cons 0 (discoverAgents_clean power wellFormed named)
  exact Cleanly.runCases_cons 1 (invalidAgent_clean power wellFormed named)
    (Cleanly.runCases_nil 2)

/-- The base plan finds nothing wrong with a well-formed platform, leaves it as it is, and lists its
protocols in order. -/
theorem suites_clean :
    Cleanly Switchboard.link.answer (runSuites plan plan.suites 0) SuiteReport.AllClean
      ((plan.context (some (.base (.ofConfig config)))).standing.At
        (runningPlatform config power {}))
      fun standing state =>
        standing.discovered.list Entity.protocols = config.protocols.map (·.toUInt32) ∧
          state = runningPlatform config power {} := by
  apply Cleanly.runSuites_cons discoverySuite (discoverySuite_clean power wellFormed)
  apply Cleanly.runSuites_cons identificationSuite (identificationSuite_clean power wellFormed)
  apply Cleanly.runSuites_cons protocolListSuite (protocolListSuite_clean power wellFormed)
  refine Cleanly.runSuites_cons agentSuite ((agentSuite_clean power wellFormed).weaken ?_)
    (Cleanly.runSuites_nil 4)
  rintro _ _ ⟨rfl, rfl⟩
  exact ⟨rfl, rfl⟩

end Suites

end PlatformAudit.Base
