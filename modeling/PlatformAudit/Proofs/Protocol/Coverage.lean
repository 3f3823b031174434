import Mathlib.Data.List.Nodup
import PlatformAudit.Proofs.Audit.Announcements
import PlatformAudit.Proofs.Message.HeaderCodec
import PlatformAudit.Proofs.Protocol.OptionalCommands

/-!
# What is covered of an announcement

Both plans ask for the attributes early, and both go by the numbers in the answer: every announced
agent and every announced domain is asked about, once and in order, and the cases that have to be
refused go just past the numbers.  Without an announcement nothing is gone through, and the largest
word is the number past it.
-/

universe w

namespace PlatformAudit

open Dialogue

theorem Plan.case_eq_of_id {plan : Plan} (distinct : (plan.cases.map (·.id)).Nodup)
    {case : Case} (inPlan : case ∈ plan.cases) (position : Fin plan.cases.length)
    (same : case.id = plan.cases[position].id) : case = plan.cases[position] :=
  List.inj_on_of_nodup_map distinct inPlan (List.getElem_mem position.isLt) same

/-- The number past an announced one, or the largest word if none was announced. -/
def pastNumber (announced : Option Nat) : Nat :=
  (announced.map (· + 1)).getD 0xFFFFFFFF

/-- In every run of the plan one case asks what there is, and every case that has its turn covers
what the answer announces. -/
def Plan.CoversAnnounced (plan : Plan) (id : String)
    (covers : Option Fixture → Answer → Episode → Prop) : Prop :=
  ∀ {σ : Type w} (respond : Responder σ) (fixture : Option Fixture) (token : UInt16) (state : σ),
    ∃ chapters, plan.IsToldBy respond fixture token state chapters ∧
      ∃ asking ∈ chapters.flatMap (·.episodes), asking.case.id = id ∧
        ∃ request answer, asking.exchanges = [(request, answer)] ∧
          ∀ episode ∈ chapters.flatMap (·.episodes),
            (episode.case.id = id → episode = asking) ∧ covers fixture answer episode

namespace Announcing

variable (announcing : Announcing) {knows : Option Fixture → Answer → Context → Prop}
  {covers : Option Fixture → Answer → Episode → Prop}

/-- What is announced is covered if whatever has to cover it goes by what is known. -/
theorem coversAnnounced
    (learns : ∀ {fixture context},
      (announcing.plan.context fixture).Agree announcing.names context →
      ∀ answer, knows fixture answer (CaseRun.learned announcing.keeps context answer))
    (keeps : ∀ {fixture answer first second}, knows fixture answer first →
      Context.Agree announcing.names first second → knows fixture answer second)
    (early : ∀ fixture answer episode,
      episode.case ∈ announcing.early ∨ episode.case = announcing.source →
        covers fixture answer episode)
    (late : ∀ {σ : Type w} (respond : Responder σ) {fixture answer case carried},
      case ∈ announcing.plan.cases → knows fixture answer carried.context →
        ∀ state, covers fixture answer
          (PlanRun.episode respond announcing.plan case carried state)) :
    announcing.plan.CoversAnnounced.{w} announcing.source.id covers := by
  intro σ respond fixture token state
  obtain ⟨before, asking, others, answer, announces⟩ :=
    announcing.announces respond fixture token state
  have split : announcing.plan.turns respond fixture token state = before ++ asking :: others :=
    announces.split
  refine ⟨_, Plan.isToldBy_chronicle respond announcing.plan fixture token state, asking, ?_, ?_,
    _, answer, announces.exchanges, ?_⟩
  · change asking ∈ announcing.plan.turns respond fixture token state
    rw [split]
    exact List.mem_append_right _ (List.mem_cons_self ..)
  · rw [announces.ofSource]
  · intro episode member
    have inPlan : episode.case ∈ announcing.plan.cases := PlanRun.case_of_mem_chapters member
    rcases announces.found member with ofEarly | rfl | ⟨apart, known⟩
    · have apart := (announcing.spared (.inl ofEarly)).1
      exact ⟨fun same => absurd same apart, early _ _ _ (.inl ofEarly)⟩
    · exact ⟨fun _ => rfl, early _ _ _ (.inr announces.ofSource)⟩
    · refine ⟨fun same => absurd same apart, ?_⟩
      have knowing := keeps (learns announces.fresh answer) known
      obtain ⟨earlier, later, here⟩ := List.append_of_mem member
      have found := Plan.turn_eq respond fixture token state here
      rw [found]
      exact late respond inPlan knowing _

end Announcing

namespace Base

/-! ### The base protocol -/

def announcedProtocols? (answer : Answer) : Option Nat :=
  (announcement? answer).map fun word => word.toNat % 256

def announcedAgents? (answer : Answer) : Option Nat :=
  (announcement? answer).map fun word => word.toNat / 256 % 256

theorem announcedProtocols?_lt (answer : Answer) : ∀ number ∈ announcedProtocols? answer,
    number < 256 := by
  intro number member
  obtain ⟨word, -, rfl⟩ := Option.map_eq_some_iff.mp member
  exact Nat.mod_lt _ (by decide)

theorem announcedAgents?_lt (answer : Answer) : ∀ number ∈ announcedAgents? answer,
    number < 256 := by
  intro number member
  obtain ⟨word, -, rfl⟩ := Option.map_eq_some_iff.mp member
  exact Nat.mod_lt _ (by decide)

/-- The agents that an answer announces: all up to their number, from the first one on. -/
def announcedAgentIds (answer : Answer) : List UInt32 :=
  (List.range ((announcedAgents? answer).getD 0)).map fun position => UInt32.ofNat (position + 1)

/-- The names under which the attributes are kept. -/
def attributeNames : List String :=
  [Entity.protocolCount, Entity.agentCount, Entity.agents]

/-- What is known of the attributes once they have been asked for. -/
structure Knows (fixture : Option Fixture) (answer : Answer) (context : Context) : Prop where
  fixture : context.fixture = fixture
  protocolCount :
    (context.discovered.value? Entity.protocolCount).map UInt32.toNat = announcedProtocols? answer
  agentCount :
    (context.discovered.value? Entity.agentCount).map UInt32.toNat = announcedAgents? answer
  agents : context.discovered.list Entity.agents = announcedAgentIds answer

theorem toNat_protocolCount (word : UInt32) :
    (protocolCount.read word).toNat = word.toNat % 256 := by
  rw [BitRange.toNat_read]
  exact congrArg (· % 256) (Nat.div_one _)

theorem toNat_agentCount (word : UInt32) :
    (agentCount.read word).toNat = word.toNat / 256 % 256 :=
  BitRange.toNat_read _ _

theorem keepAttributes_eq (response : Response) :
    keepAttributes response =
      match announcement? (.ok response) with
      | none => []
      | some word =>
          [ .discover (.setValue Entity.protocolCount (protocolCount.read word))
          , .discover (.setValue Entity.agentCount (agentCount.read word))
          , .discover (.record Entity.agents
              ((List.range (agentCount.read word).toNat).map fun position =>
                UInt32.ofNat (position + 1))) ] := by
  unfold keepAttributes announcement?
  cases word : response.word? 0 <;> by_cases succeeded : response.Succeeded <;>
    simp [succeeded, word]

/-- The case that asks for the attributes learns what its answer announces. -/
theorem learned_knows {fixture : Option Fixture} {context : Context}
    (fresh : (plan.context fixture).Agree attributeNames context) (answer : Answer) :
    Knows fixture answer (CaseRun.learned keepAttributes context answer) := by
  have value? (name : String) (among : name ∈ attributeNames) :
      context.discovered.value? name = none := fresh.value? name among
  have list : context.discovered.list Entity.agents = [] :=
    fresh.list _ (by simp [attributeNames])
  have nothing (announced : announcement? answer = none) : Knows fixture answer context := by
    constructor
    · exact fresh.fixture
    · rw [value? _ (by simp [attributeNames]), announcedProtocols?, announced]
      rfl
    · rw [value? _ (by simp [attributeNames]), announcedAgents?, announced]
      rfl
    · rw [list, announcedAgentIds, announcedAgents?, announced]
      rfl
  cases answer with
  | error cause => exact nothing rfl
  | ok response =>
      have learned : CaseRun.learned keepAttributes context (.ok response) =
          (keepAttributes response).foldl Effect.apply context := rfl
      rw [learned, keepAttributes_eq]
      cases announced : announcement? (.ok response) with
      | none => exact nothing announced
      | some word =>
          simp only [List.foldl_cons, List.foldl_nil, Effect.apply, Context.discover]
          constructor
          · exact fresh.fixture
          · rw [announcedProtocols?, announced, Option.map_some, ← toNat_protocolCount,
              Discovery.value?_record, Discovery.value?_setValue, if_neg (by decide),
              Discovery.value?_setValue, if_pos rfl, Option.map_some]
          · rw [announcedAgents?, announced, Option.map_some, ← toNat_agentCount,
              Discovery.value?_record, Discovery.value?_setValue, if_pos rfl, Option.map_some]
          · rw [announcedAgentIds, announcedAgents?, announced, Option.map_some,
              ← toNat_agentCount]
            exact Discovery.list_record _ _ _

theorem Knows.agree {fixture : Option Fixture} {answer : Answer} {first second : Context}
    (knows : Knows fixture answer first) (agree : first.Agree attributeNames second) :
    Knows fixture answer second where
  fixture := agree.fixture.trans knows.fixture
  protocolCount := by
    rw [agree.value? _ (by simp [attributeNames])]
    exact knows.protocolCount
  agentCount := by
    rw [agree.value? _ (by simp [attributeNames])]
    exact knows.agentCount
  agents := by
    rw [agree.list _ (by simp [attributeNames])]
    exact knows.agents

theorem protocols_notMem : Entity.protocols ∉ attributeNames := by decide

theorem active_around_attributes : agentGating.opening.active =
    discoveryCases.take 1 ++ discoveryCases[1] :: discoveryCases.drop 2 := rfl

theorem cases_distinct : (plan.cases.map (·.id)).Nodup := by decide

theorem attributes_spared (case : Case) (inPlan : case ∈ plan.cases)
    (other : case.id ≠ discoveryCases[1].id) : case.Within (.sparing attributeNames) := by
  have records (ids : List UInt32) (edit : Discovery.Edit)
      (same : Effect.discover (.record Entity.protocols ids) = .discover edit) :
      edit.name ∉ attributeNames := by
    cases same
    exact protocols_notMem
  exact case_within (fun _ _ => trivial) (fun _ _ => Effect.noConfusion) records inPlan
    fun same => absurd (congrArg Case.id same) other

def attributesAnnouncing : Announcing where
  plan := plan
  opening := agentGating.opening
  rest := agentGating.between ++ [agentGating.gated]
  early := discoveryCases.take 1
  source := discoveryCases[1]
  late := discoveryCases.drop 2
  names := attributeNames
  suites_eq := agentGating.suites_eq
  discoverySuite_eq := agentGating.discoverySuite_eq
  active_eq := active_around_attributes
  keeps := keepAttributes
  fixed := ⟨rfl, rfl, rfl, rfl, rfl⟩
  sends _ := rfl
  distinct := cases_distinct
  within := attributes_spared

/-- A case covers what the attributes announced, if it goes by them. -/
structure Covers (fixture : Option Fixture) (answer : Answer) (episode : Episode) : Prop where
  protocol : episode.case.protocol = Protocol.base
  agents : episode.case.id = "base.discover_agent" →
    episode.case.message = discoverAgent ∧
      episode.GoesThrough (announcedAgentIds answer) (agentDescriptors (plan.context fixture))
  pastAgents : episode.case.id = "base.discover_agent.invalid" →
    episode.case.message = discoverAgent ∧
      ∃ agent, agent.toNat = pastNumber (announcedAgents? answer) ∧ episode.SendsOnly [agent]
  pastProtocols : episode.case.id = "base.list_protocols.invalid_skip" →
    episode.case.message = discoverListProtocols ∧
      ∃ skip, skip.toNat = pastNumber (announcedProtocols? answer) ∧ episode.SendsOnly [skip]

theorem agentDescriptors_congr {first second : Context} (same : second.fixture = first.fixture) :
    agentDescriptors second = agentDescriptors first := by
  funext agent
  simp only [agentDescriptors, expectations?, same]

theorem toNat_pastAnnounced {entity : String} {context : Context} {announced : Option Nat}
    (known : (context.discovered.value? entity).map UInt32.toNat = announced)
    (small : ∀ number ∈ announced, number < 256) :
    (pastAnnounced entity context).toNat = pastNumber announced := by
  subst known
  rw [pastAnnounced, pastNumber]
  cases found : context.discovered.value? entity with
  | none => rfl
  | some number =>
      have bound : number.toNat < 256 := small _ (by simp [found])
      simp only [Option.map_some, Option.getD_some]
      rw [UInt32.toNat_add]
      exact Nat.mod_eq_of_lt (by simp; omega)

theorem covers_early (fixture : Option Fixture) (answer : Answer) (episode : Episode)
    (early : episode.case ∈ discoveryCases.take 1 ∨ episode.case = discoveryCases[1]) :
    Covers fixture answer episode := by
  have among : episode.case ∈ discoveryCases.take 2 := by
    rcases early with early | same
    · exact List.take_subset_take_left _ (by decide) early
    · rw [same]
      exact List.getElem_mem (l := discoveryCases.take 2) (n := 1) (by decide)
  have unnamed {id : String} (other : id ∉ (discoveryCases.take 2).map (·.id)) :
      episode.case.id ≠ id :=
    fun same => other (same ▸ List.mem_map_of_mem among)
  constructor
  · exact (by decide : ∀ case ∈ discoveryCases.take 2, case.protocol = Protocol.base) _ among
  all_goals exact fun named => absurd named (unnamed (by decide))

theorem covers_of_knows {σ : Type w} {respond : Responder σ} {fixture : Option Fixture}
    {answer : Answer} {case : Case} {carried : PlanState} (inPlan : case ∈ plan.cases)
    (knows : Knows fixture answer carried.context) (state : σ) :
    Covers fixture answer (PlanRun.episode respond plan case carried state) := by
  have fixture_eq : carried.context.fixture = (plan.context fixture).fixture := knows.fixture
  constructor
  · exact (by decide : ∀ case ∈ plan.cases, case.protocol = Protocol.base) case inPlan
  · intro named
    have found : case = agentCases[0] :=
      Plan.case_eq_of_id cases_distinct inPlan ⟨11, by decide⟩ named
    subst found
    have scripted : agentCases[0].IsScripted
        (.askForFound Entity.agents "agents" "no agents discovered" agentDescriptors) :=
      ⟨rfl, rfl, rfl, rfl⟩
    rw [← knows.agents, ← agentDescriptors_congr fixture_eq]
    exact ⟨rfl, PlanRun.episode_goesThrough scripted state⟩
  · intro named
    have found : case = agentCases[1] :=
      Plan.case_eq_of_id cases_distinct inPlan ⟨12, by decide⟩ named
    subst found
    refine ⟨rfl, pastAnnounced Entity.agentCount carried.context, ?_, ?_⟩
    · exact toNat_pastAnnounced knows.agentCount (announcedAgents?_lt answer)
    · exact PlanRun.episode_sendsOnly (.keepsNothing rfl rfl rfl rfl rfl) rfl state
  · intro named
    have found : case = protocolListCases[1] :=
      Plan.case_eq_of_id cases_distinct inPlan ⟨10, by decide⟩ named
    subst found
    refine ⟨rfl, pastAnnounced Entity.protocolCount carried.context, ?_, ?_⟩
    · exact toNat_pastAnnounced knows.protocolCount (announcedProtocols?_lt answer)
    · exact PlanRun.episode_sendsOnly (.keepsNothing rfl rfl rfl rfl rfl) rfl state

end Base

namespace Power

/-! ### The power protocol -/

def announcedDomains? (answer : Answer) : Option Nat :=
  (announcement? answer).map fun word => word.toNat % 65536

/-- The domains that an answer announces: all below their number, from the first one on. -/
def announcedDomainIds (answer : Answer) : List UInt32 :=
  (List.range ((announcedDomains? answer).getD 0)).map UInt32.ofNat

/-- The first domain that an answer does not announce, or the largest word without an
announcement. -/
def unannouncedDomain (answer : Answer) : Nat :=
  (announcedDomains? answer).getD 0xFFFFFFFF

def attributeNames : List String :=
  [Entity.domainCount, Entity.domains]

/-- What is known of the attributes once they have been asked for. -/
structure Knows (fixture : Option Fixture) (answer : Answer) (context : Context) : Prop where
  fixture : context.fixture = fixture
  domainCount :
    (context.discovered.value? Entity.domainCount).map UInt32.toNat = announcedDomains? answer
  domains : context.discovered.list Entity.domains = announcedDomainIds answer

theorem toNat_domainCount (word : UInt32) : (domainCount.read word).toNat = word.toNat % 65536 := by
  rw [BitRange.toNat_read]
  exact congrArg (· % 65536) (Nat.div_one _)

theorem keepAttributes_eq (response : Response) :
    keepAttributes response =
      match announcement? (.ok response) with
      | none => []
      | some word =>
          [ .discover (.setValue Entity.domainCount (domainCount.read word))
          , .discover (.record Entity.domains
              ((List.range (domainCount.read word).toNat).map UInt32.ofNat)) ] := by
  unfold keepAttributes announcement?
  cases word : response.word? 0 <;> by_cases succeeded : response.Succeeded <;>
    simp [succeeded, word]

theorem learned_knows {fixture : Option Fixture} {context : Context}
    (fresh : (plan.context fixture).Agree attributeNames context) (answer : Answer) :
    Knows fixture answer (CaseRun.learned keepAttributes context answer) := by
  have value? : context.discovered.value? Entity.domainCount = none :=
    fresh.value? _ (by simp [attributeNames])
  have list : context.discovered.list Entity.domains = [] :=
    fresh.list _ (by simp [attributeNames])
  have nothing (announced : announcement? answer = none) : Knows fixture answer context := by
    constructor
    · exact fresh.fixture
    · rw [value?, announcedDomains?, announced]
      rfl
    · rw [list, announcedDomainIds, announcedDomains?, announced]
      rfl
  cases answer with
  | error cause => exact nothing rfl
  | ok response =>
      have learned : CaseRun.learned keepAttributes context (.ok response) =
          (keepAttributes response).foldl Effect.apply context := rfl
      rw [learned, keepAttributes_eq]
      cases announced : announcement? (.ok response) with
      | none => exact nothing announced
      | some word =>
          simp only [List.foldl_cons, List.foldl_nil, Effect.apply, Context.discover]
          constructor
          · exact fresh.fixture
          · rw [announcedDomains?, announced, Option.map_some, ← toNat_domainCount,
              Discovery.value?_record, Discovery.value?_setValue, if_pos rfl, Option.map_some]
          · rw [announcedDomainIds, announcedDomains?, announced, Option.map_some,
              ← toNat_domainCount]
            exact Discovery.list_record _ _ _

theorem Knows.agree {fixture : Option Fixture} {answer : Answer} {first second : Context}
    (knows : Knows fixture answer first) (agree : first.Agree attributeNames second) :
    Knows fixture answer second where
  fixture := agree.fixture.trans knows.fixture
  domainCount := by
    rw [agree.value? _ (by simp [attributeNames])]
    exact knows.domainCount
  domains := by
    rw [agree.list _ (by simp [attributeNames])]
    exact knows.domains

theorem active_around_attributes : notifyGating.opening.active =
    discoveryCases.take 1 ++ discoveryCases[1] :: discoveryCases.drop 2 := rfl

theorem cases_distinct : (plan.cases.map (·.id)).Nodup := by decide

theorem attributes_spared (case : Case) (inPlan : case ∈ plan.cases)
    (other : case.id ≠ discoveryCases[1].id) : case.Within (.sparing attributeNames) :=
  case_within (fun _ _ => trivial) (fun _ _ => Effect.noConfusion) inPlan
    fun same => absurd (congrArg Case.id same) other

def attributesAnnouncing : Announcing where
  plan := plan
  opening := notifyGating.opening
  rest := notifyGating.between ++ [notifyGating.gated]
  early := discoveryCases.take 1
  source := discoveryCases[1]
  late := discoveryCases.drop 2
  names := attributeNames
  suites_eq := notifyGating.suites_eq
  discoverySuite_eq := notifyGating.discoverySuite_eq
  active_eq := active_around_attributes
  keeps := keepAttributes
  fixed := ⟨rfl, rfl, rfl, rfl, rfl⟩
  sends _ := rfl
  distinct := cases_distinct
  within := attributes_spared

/-- A case covers what the attributes announced, if it goes by them. -/
structure Covers (fixture : Option Fixture) (answer : Answer) (episode : Episode) : Prop where
  protocol : episode.case.protocol = Protocol.power
  domains : episode.case.id = "power.domain_attributes" →
    episode.case.message = domainAttributes ∧
      episode.GoesThrough (announcedDomainIds answer) (domainDescriptors (plan.context fixture))
  pastDomains : episode.case.id = "power.domain_attributes.invalid_domain" →
    episode.case.message = domainAttributes ∧
      ∃ domain, domain.toNat = unannouncedDomain answer ∧ episode.SendsOnly [domain]
  pastSet : episode.case.id = "power.state_set.invalid_domain" →
    episode.case.message = stateSet ∧
      ∃ domain, domain.toNat = unannouncedDomain answer ∧ episode.SendsOnly [0, domain, stateOn]
  pastGet : episode.case.id = "power.state_get.invalid_domain" →
    episode.case.message = stateGet ∧
      ∃ domain, domain.toNat = unannouncedDomain answer ∧ episode.SendsOnly [domain]
  pastNotify : episode.case.id = "power.state_notify.invalid_domain" →
    episode.case.message = stateNotify ∧
      ∃ domain, domain.toNat = unannouncedDomain answer ∧ episode.SendsOnly [domain, 1]

theorem domainDescriptors_congr {first second : Context} (same : second.fixture = first.fixture) :
    domainDescriptors second = domainDescriptors first := by
  funext domain
  simp only [domainDescriptors, declaredDomain?, expectations?, same]

theorem Knows.toNat_firstUnannounced {fixture : Option Fixture} {answer : Answer}
    {context : Context} (knows : Knows fixture answer context) :
    (firstUnannounced context).toNat = unannouncedDomain answer := by
  rw [firstUnannounced, unannouncedDomain, ← knows.domainCount]
  cases context.discovered.value? Entity.domainCount <;> rfl

theorem covers_early (fixture : Option Fixture) (answer : Answer) (episode : Episode)
    (early : episode.case ∈ discoveryCases.take 1 ∨ episode.case = discoveryCases[1]) :
    Covers fixture answer episode := by
  have among : episode.case ∈ discoveryCases.take 2 := by
    rcases early with early | same
    · exact List.take_subset_take_left _ (by decide) early
    · rw [same]
      exact List.getElem_mem (l := discoveryCases.take 2) (n := 1) (by decide)
  have unnamed {id : String} (other : id ∉ (discoveryCases.take 2).map (·.id)) :
      episode.case.id ≠ id :=
    fun same => other (same ▸ List.mem_map_of_mem among)
  constructor
  · exact (by decide : ∀ case ∈ discoveryCases.take 2, case.protocol = Protocol.power) _ among
  all_goals exact fun named => absurd named (unnamed (by decide))

theorem covers_of_knows {σ : Type w} {respond : Responder σ} {fixture : Option Fixture}
    {answer : Answer} {case : Case} {carried : PlanState} (inPlan : case ∈ plan.cases)
    (knows : Knows fixture answer carried.context) (state : σ) :
    Covers fixture answer (PlanRun.episode respond plan case carried state) := by
  have fixture_eq : carried.context.fixture = (plan.context fixture).fixture := knows.fixture
  have past := knows.toNat_firstUnannounced
  constructor
  · exact (by decide : ∀ case ∈ plan.cases, case.protocol = Protocol.power) case inPlan
  · intro named
    have found : case = domainCases[0] :=
      Plan.case_eq_of_id cases_distinct inPlan ⟨5, by decide⟩ named
    subst found
    have scripted : domainCases[0].IsScripted
        (.askForFound Entity.domains "domains" "no power domains discovered"
          domainDescriptors) :=
      ⟨rfl, rfl, rfl, rfl⟩
    rw [← knows.domains, ← domainDescriptors_congr fixture_eq]
    exact ⟨rfl, PlanRun.episode_goesThrough scripted state⟩
  · intro named
    have found : case = domainCases[1] :=
      Plan.case_eq_of_id cases_distinct inPlan ⟨6, by decide⟩ named
    subst found
    refine ⟨rfl, _, past, ?_⟩
    exact PlanRun.episode_sendsOnly (.keepsNothing rfl rfl rfl rfl rfl) rfl state
  · intro named
    have found : case = stateCases[4] :=
      Plan.case_eq_of_id cases_distinct inPlan ⟨11, by decide⟩ named
    subst found
    refine ⟨rfl, _, past, ?_⟩
    exact PlanRun.episode_sendsOnly (.keepsNothing rfl rfl rfl rfl rfl) rfl state
  · intro named
    have found : case = stateCases[5] :=
      Plan.case_eq_of_id cases_distinct inPlan ⟨12, by decide⟩ named
    subst found
    refine ⟨rfl, _, past, ?_⟩
    exact PlanRun.episode_sendsOnly (.keepsNothing rfl rfl rfl rfl rfl) rfl state
  · intro named
    have found : case = notifyCases[1] :=
      Plan.case_eq_of_id cases_distinct inPlan ⟨14, by decide⟩ named
    subst found
    refine ⟨rfl, _, past, ?_⟩
    exact PlanRun.episode_sendsOnly (.keepsNothing rfl rfl rfl rfl rfl) rfl state

end Power

/-- Both plans cover exactly what the attributes announce. -/
theorem plans_cover_announced :
    Base.plan.CoversAnnounced.{w} "base.attributes" Base.Covers ∧
      Power.plan.CoversAnnounced.{w} "power.attributes" Power.Covers := by
  constructor
  · exact Base.attributesAnnouncing.coversAnnounced Base.learned_knows Base.Knows.agree
      Base.covers_early fun _ => Base.covers_of_knows
  · exact Power.attributesAnnouncing.coversAnnounced Power.learned_knows Power.Knows.agree
      Power.covers_early fun _ => Power.covers_of_knows

end PlatformAudit
