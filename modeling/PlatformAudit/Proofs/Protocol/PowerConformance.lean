import PlatformAudit.Protocol.Power.Plan
import PlatformAudit.Proofs.Payload.Packing
import PlatformAudit.Proofs.Platform.RunningPlatform
import PlatformAudit.Proofs.Protocol.CommonCases
import PlatformAudit.Proofs.Protocol.OptionalCommands
import PlatformAudit.Proofs.Protocol.PowerService

/-!
# The power protocol conforms to its plan

A platform that is configured sensibly passes all cases of the power plan if what is declared about
it is what it was configured to be, whatever the states of its domains are at the beginning.
-/

namespace PlatformAudit.Power

open Dialogue PlanRun

/-- A configuration that the power protocol can tell an agent about.  The plan sets the first two
domains, and waits for changes of the first one. -/
structure Config.WellFormed (config : Config) : Prop where
  two_le : 2 ≤ config.domains.length
  domains_length : config.domains.length ≤ 65535
  names : ∀ domain ∈ config.domains, FixedText.Fits domain.name Protocol.nameWords
  watched : config.stateNotify = true →
    ∀ domain, config.domains[0]? = some domain → domain.notify = true

variable (config : Config) (base : Base.Config)

def standingAt (decisions : List SuiteDecision) (suite : Nat) (discovered : Discovery)
    (precondition : Option Precondition) : Standing where
  frame :=
    { fixture := some (.power (.ofConfig config))
      suiteNames := plan.suites.map (·.name)
      discoverySuite := discoverySuite
      decisions }
  suite := suite
  precondition := precondition
  discovered := discovered

variable {config} {decisions : List SuiteDecision} {suite : Nat} {discovered : Discovery}
  {precondition : Option Precondition} {service : Service}

theorem expectations?_eq {context : Context}
    (stands : context.standing = standingAt config decisions suite discovered precondition) :
    expectations? context = some (.ofConfig config) := by
  have fixture : context.fixture = some (.power (.ofConfig config)) :=
    congrArg (fun standing => standing.frame.fixture) stands
  rw [expectations?, fixture]
  rfl

section Answers

variable {board : Switchboard PlatformAudit.Service} {case : Case} {message : UInt8}
  {parameters : List UInt32} {outcome : Outcome Service} {status : Status} {token : UInt16}
  {pending : Pending}

theorem board_performed (serves : board.ServesPower service)
    (protocol : case.protocol = Protocol.power) (fits : parameters.length ≤ maxPayloadWords)
    (performed : (Service.perform (CaseRun.nextHeader case message token) parameters).CarriesOut
      service outcome) :
    Switchboard.link.answer board (.command (CaseRun.nextHeader case message token) parameters) =
      (.ok (.answering (CaseRun.nextHeader case message token) .success outcome.returns),
        { board.withPower outcome.next with
          pending := board.pending.pushAll outcome.posts }) := by
  rw [serves.answer protocol fits]
  simp only [Handler.respond, performed.reply]
  rfl

theorem board_refused (serves : board.ServesPower service)
    (protocol : case.protocol = Protocol.power) (fits : parameters.length ≤ maxPayloadWords)
    (refused : (Service.perform (CaseRun.nextHeader case message token) parameters).Refuses
      service status) :
    Switchboard.link.answer board (.command (CaseRun.nextHeader case message token) parameters) =
      (.ok (.answering (CaseRun.nextHeader case message token) status []),
        board.withPower service) := by
  rw [serves.answer protocol fits]
  simp only [Handler.respond, refused.reply]
  rfl

theorem answer_performed (protocol : case.protocol = Protocol.power)
    (fits : parameters.length ≤ maxPayloadWords)
    (performed : (Service.perform (CaseRun.nextHeader case message token) parameters).CarriesOut
      service outcome) :
    Switchboard.link.answer (runningPlatform base (some service) pending)
        (.command (CaseRun.nextHeader case message token) parameters) =
      (.ok (.answering (CaseRun.nextHeader case message token) .success outcome.returns),
        runningPlatform base (some outcome.next) (pending.pushAll outcome.posts)) :=
  board_performed (RunningPlatform.handler_power base service pending) protocol fits performed

theorem answer_refused (protocol : case.protocol = Protocol.power)
    (fits : parameters.length ≤ maxPayloadWords)
    (refused : (Service.perform (CaseRun.nextHeader case message token) parameters).Refuses
      service status) :
    Switchboard.link.answer (runningPlatform base (some service) pending)
        (.command (CaseRun.nextHeader case message token) parameters) =
      (.ok (.answering (CaseRun.nextHeader case message token) status []),
        runningPlatform base (some service) pending) :=
  board_refused (RunningPlatform.handler_power base service pending) protocol fits refused

end Answers

/-- A part of the run of the power plan that leads from one standing to another. -/
abbrev Leading {α : Type} (base : Base.Config) (run : PlanRun α) (good : α → Prop)
    (before : Standing) (service : Service) (after : Standing) (next : Service) : Prop :=
  Cleanly Switchboard.link.answer run good (before.At (runningPlatform base (some service) {}))
    (after.At (runningPlatform base (some next) {}))

/-- The assertion that the standing is the given one, and that the power protocol runs as it is
configured with nothing in waiting. -/
def Running (config : Config) (base : Base.Config) (standing : Standing) :
    Standing → Switchboard PlatformAudit.Service → Prop :=
  fun other state => ∃ service : Service, service.Runs config ∧
    standing.At (runningPlatform base (some service) {}) other state

/-- Whatever the states of the domains are. -/
theorem Running.cleanly {α : Type} {run : PlanRun α} {good : α → Prop} {before : Standing}
    {after : Standing → Switchboard PlatformAudit.Service → Prop}
    (each : ∀ service : Service, service.Runs config →
      Cleanly Switchboard.link.answer run good
        (before.At (runningPlatform base (some service) {})) after) :
    Cleanly Switchboard.link.answer run good (Running config base before) after := by
  rintro carried state ⟨service, runs, holds⟩
  exact each service runs carried state holds

theorem Config.WellFormed.domains_toNat (wellFormed : config.WellFormed) :
    (UInt32.ofNat config.domains.length).toNat = config.domains.length :=
  toNat_ofNat_of_short wellFormed.domains_length

def announced (config : Config) : Discovery :=
  { values := [(Entity.domainCount, UInt32.ofNat config.domains.length)]
    lists := [(Entity.domains, (List.range config.domains.length).map UInt32.ofNat)] }

section Discovery

variable (wellFormed : config.WellFormed) (runs : service.Runs config)

include runs

theorem version_clean :
    Leading base (runCase plan discoveryCases[0]) CaseReport.IsClean
      (standingAt config decisions suite discovered precondition) service
      (standingAt config decisions suite discovered precondition) service := by
  have performed : ∀ token,
      (Service.perform (CaseRun.nextHeader discoveryCases[0] discoveryCases[0].message token)
        []).CarriesOut
        service { returns := [config.version], next := service } := by
    intro token
    rw [← runs.version]
    rfl
  apply Cleanly.plain ⟨rfl, rfl, fun _ => rfl, rfl, rfl⟩ rfl (fun _ _ => rfl)
    (fun token => answer_performed base rfl (by decide) (performed token))
  intro _ context stands
  have expected : expectedReturns plan discoveryCases[0] context =
      Protocol.versionDescriptors ((expectations? context).bind (·.version)) := rfl
  rw [expected, expectations?_eq stands]
  exact Protocol.versionDescriptors_isClean config.version

include wellFormed in
theorem attributes_clean :
    Leading base (runCase plan discoveryCases[1]) CaseReport.IsClean
      (standingAt config decisions suite {} precondition) service
      (standingAt config decisions suite (announced config) precondition) service := by
  have performed : ∀ token,
      (Service.perform (CaseRun.nextHeader discoveryCases[1] discoveryCases[1].message token)
        []).CarriesOut
        service { returns := [UInt32.ofNat config.domains.length, 0, 0, 0], next := service } := by
    intro token
    rw [← runs.length_eq]
    rfl
  have fits : UInt32.ofNat config.domains.length ≤ domainCount.maxValue := by
    rw [UInt32.le_iff_toNat_le, wellFormed.domains_toNat]
    exact wellFormed.domains_length
  have small : (UInt32.ofNat config.domains.length).toNat < 65536 := by
    rw [wellFormed.domains_toNat]
    exact Nat.lt_succ_of_le wellFormed.domains_length
  have count : domainCount.read (UInt32.ofNat config.domains.length) =
      UInt32.ofNat config.domains.length := BitRange.read_of_fits _ rfl fits
  refine Cleanly.fixed (.performs rfl) rfl (fun _ _ => rfl) (fun _ _ => rfl)
    (fun token => answer_performed base rfl (by decide) (performed token))
    (.inl rfl) (fun _ _ => ExpectedStatus.toCheck_exact_isClean .success "status")
    (fun _ context stands => ?_) fun context header stands => ?_
  · have expected : expectedReturns plan discoveryCases[1] context =
        [ (Descriptor.checkIf domainCountField
            ((expectations? context).bind (·.domainCount))).decimal
        , .reserved attributesReservedField
        , .display (.word "stats_address_low" 1)
        , .display (.word "stats_address_high" 2)
        , .display (.word "stats_length" 3) ] := rfl
    rw [expected, expectations?_eq stands]
    simp only [List.forall_mem_cons]
    refine ⟨?_, ?_, ?_, ?_, ?_, by simp⟩
    · exact Descriptor.toCheck_isClean_of_value rfl rfl rfl count
    · exact Descriptor.toCheck_isClean_of_reserved _ rfl (BitRange.read_of_below _ small)
    · exact Descriptor.toCheck_isClean_of_display rfl rfl rfl
    · exact Descriptor.toCheck_isClean_of_display rfl rfl rfl
    · exact Descriptor.toCheck_isClean_of_display rfl rfl rfl
  · have kept : keepAttributes
        (.answering header .success [UInt32.ofNat config.domains.length, 0, 0, 0]) =
          [ .discover (.setValue Entity.domainCount (UInt32.ofNat config.domains.length))
          , .discover (.record Entity.domains
              ((List.range config.domains.length).map UInt32.ofNat)) ] := by
      have read : keepAttributes
          (.answering header .success [UInt32.ofNat config.domains.length, 0, 0, 0]) =
            [ .discover (.setValue Entity.domainCount
                (domainCount.read (UInt32.ofNat config.domains.length)))
            , .discover (.record Entity.domains
                ((List.range (domainCount.read (UInt32.ofNat config.domains.length)).toNat).map
                  UInt32.ofNat)) ] := rfl
      rw [read, count, wellFormed.domains_toNat]
    rw [kept]
    refine ⟨by simp [Effect.checks], ?_⟩
    rw [Context.standing_settle _ (by decide)]
    simp only [List.foldl_cons, List.foldl_nil, Effect.apply, Context.standing_discover, stands]
    rfl

omit runs in
theorem mandatory_clean :
    Leading base (runCase plan discoveryCases[2]) CaseReport.IsClean
      (standingAt config decisions suite discovered precondition) service
      (standingAt config decisions suite discovered precondition) service := by
  have performed : ∀ message ∈ mandatory, ∀ token,
      (Service.perform (CaseRun.nextHeader discoveryCases[2] discoveryCases[2].message token)
        [message.toUInt32]).CarriesOut service { returns := [0], next := service } := by
    simp only [mandatory, List.forall_mem_cons]
    exact ⟨fun _ => rfl, fun _ => rfl, fun _ => rfl, fun _ => rfl, fun _ => rfl, fun _ => rfl,
      by simp⟩
  have hooks : discoveryCases[2].hooks = { execute := Protocol.askForEach mandatory } := rfl
  apply Cleanly.askForEach 0 hooks rfl rfl rfl (fun _ => rfl)
  intro message member token
  exact answer_performed base rfl (by simp [maxPayloadWords]) (performed message member token)

omit runs in
theorem notifyGate_capability {context : Context}
    (stands : context.standing = standingAt config decisions suite discovered precondition) :
    notifyGate.capability context =
      { declared := Capability.allCommands, supported := config.stateNotify } := by
  have declared : notifyGate.capability context = declaredCapability stateNotify context := rfl
  rw [declared, declaredCapability, expectations?_eq stands]
  cases available : config.stateNotify with
  | true =>
      simp only [Expectations.capability, Expectations.ofConfig, available]
      decide
  | false =>
      simp only [Expectations.capability, Expectations.ofConfig, available]
      decide

theorem probe_clean (below : suite < notifySuite) :
    Leading base (runCase plan discoveryCases[3]) CaseReport.IsClean
      (standingAt config decisions suite discovered precondition) service
      ((standingAt config decisions suite discovered precondition).decided notifySuite
        config.stateNotify) service := by
  have hooks : discoveryCases[3].hooks = notifyGate.hooks := rfl
  have asks (token : UInt16) : Work.handle { state := service }
      (Service.perform (CaseRun.nextHeader discoveryCases[3] discoveryCases[3].message token)
        [stateNotify.toUInt32]) =
          Work.handle { state := service }
            (if config.stateNotify then pure [0] else throw .notFound) := by
    rw [← runs.stateNotify]
    rfl
  refine Cleanly.probe (if config.stateNotify then [0] else []) hooks rfl rfl rfl rfl rfl
    (fun token => ?_) (fun _ _ _ => ?_) (fun context => notifyGate_capability)
    (by change 3 ≠ 0; decide) (by change 3 < 4; decide) below
  · have asked := asks token
    cases available : config.stateNotify with
    | true =>
        rw [available] at asked
        have carriesOut : Handling.CarriesOut _ service { returns := [0], next := service } := asked
        exact answer_performed base rfl (by decide) carriesOut
    | false =>
        rw [available] at asked
        exact answer_refused base rfl (by decide) asked
  · exact fun descriptor none => absurd none List.not_mem_nil

omit runs in
theorem invalidMessage_clean :
    Leading base (runCase plan discoveryCases[4]) CaseReport.IsClean
      (standingAt config decisions suite discovered precondition) service
      (standingAt config decisions suite discovered precondition) service := by
  exact Cleanly.refused ⟨rfl, rfl, fun _ => rfl, rfl, rfl⟩ rfl (by decide)
    (fun _ _ => rfl) (fun token => answer_refused base rfl (by decide) rfl)

end Discovery

section Domains

variable (wellFormed : config.WellFormed) (runs : service.Runs config)

theorem declaredDomain?_eq {context : Context} {number : UInt32} {domain : DomainConfig}
    (stands : context.standing = standingAt config decisions suite discovered precondition)
    (known : config.domains[number.toNat]? = some domain) :
    declaredDomain? context number =
      some
        { name := some domain.name
          deferred := some domain.deferred
          notify := some domain.notify } := by
  simp [declaredDomain?, expectations?_eq stands, Expectations.ofConfig, known]

theorem firstUnannounced_eq {context : Context}
    (stands : context.standing =
      standingAt config decisions suite (announced config) precondition) :
    firstUnannounced context = UInt32.ofNat config.domains.length := by
  have discovered : context.discovered = announced config := congrArg Standing.discovered stands
  rw [firstUnannounced, discovered]
  rfl

theorem domainDescriptors_isClean {context : Context} {number : UInt32} {domain : DomainConfig}
    (stands : context.standing = standingAt config decisions suite discovered precondition)
    (known : config.domains[number.toNat]? = some domain)
    (fits : FixedText.Fits domain.name Protocol.nameWords) :
    ∀ descriptor ∈ domainDescriptors context number,
      (descriptor.toCheck
        (domain.attributesWord :: FixedText.encode domain.name Protocol.nameWords)).IsClean := by
  simp only [domainDescriptors, declaredDomain?_eq stands known, List.forall_mem_cons]
  refine ⟨?_, ?_, ?_, ?_, ?_, by simp⟩
  · exact Descriptor.toCheck_isClean_of_value rfl rfl rfl (read_notifySupport domain)
  · exact Descriptor.toCheck_isClean_of_value rfl rfl rfl (read_deferredSupport domain)
  · exact Descriptor.toCheck_isClean_of_display rfl rfl rfl
  · exact Descriptor.toCheck_isClean_of_reserved _ rfl (read_domainReserved domain)
  · exact Descriptor.toCheck_isClean_of_text
      (Field.readText?_encode fits _ [domain.attributesWord])

include wellFormed runs

theorem length_le_unannounced :
    service.domains.length ≤ (UInt32.ofNat config.domains.length).toNat :=
  Nat.le_of_eq (runs.length_eq.trans wellFormed.domains_toNat.symm)

theorem discoverDomains_clean :
    Leading base (runCase plan domainCases[0]) CaseReport.IsClean
      (standingAt config decisions suite (announced config) precondition) service
      (standingAt config decisions suite (announced config) precondition) service := by
  apply Cleanly.scripted rfl
  intro start _ holds clean _
  obtain ⟨stands, rfl⟩ := holds
  have found : start.context.discovered.list Entity.domains =
      (List.range config.domains.length).map UInt32.ofNat := by
    have discovered : start.context.discovered = announced config :=
      congrArg Standing.discovered stands
    rw [discovered]
    rfl
  have execute : domainCases[0].hooks.execute = discoverDomains := rfl
  rw [execute, discoverDomains, CaseRun.carries_playScript_context]
  cases domains : start.context.discovered.list Entity.domains with
  | nil =>
      simp only [Course.note, Course.bind, CaseRun.play, carries_bind, CaseRun.carries_perform,
        carries_pure]
      exact ⟨trivial, clean.affected (by simp [Effect.checks]), stands, rfl⟩
  | cons first others =>
      dsimp only
      refine Cleanly.askAbout rfl (fun _ => rfl) rfl rfl (fun number member => ?_)
        clean stands
      rw [← domains, found] at member
      obtain ⟨position, inside, rfl⟩ := List.mem_map.mp member
      have below : position < config.domains.length := List.mem_range.mp inside
      have bound := wellFormed.domains_length
      have number : (UInt32.ofNat position).toNat = position :=
        toNat_ofNat_of_short (by omega)
      have known : config.domains[(UInt32.ofNat position).toNat]? =
          some config.domains[position] := by
        rw [number]
        exact List.getElem?_eq_getElem below
      obtain ⟨domain, running, same, -⟩ := runs.domain_found known
      refine ⟨_, fun token => answer_performed base rfl (by simp [maxPayloadWords])
        (Service.perform_domainAttributes _ rfl running), ?_⟩
      rw [same]
      exact domainDescriptors_isClean stands known
        (wellFormed.names _ (List.getElem_mem below))

theorem invalidDomainAttributes_clean :
    Leading base (runCase plan domainCases[1]) CaseReport.IsClean
      (standingAt config decisions suite (announced config) precondition) service
      (standingAt config decisions suite (announced config) precondition) service := by
  refine Cleanly.refused ⟨rfl, rfl, fun _ => rfl, rfl, rfl⟩ rfl (by decide)
    (fun context stands => ?_)
    (fun token => answer_refused base rfl (by simp [maxPayloadWords])
      (Service.perform_domainAttributes_unknown _ rfl (length_le_unannounced wellFormed runs)))
  have unannounced : CaseRun.fixedParameters domainCases[1] context =
      .ok [firstUnannounced context] := rfl
  rw [unannounced, firstUnannounced_eq stands]

end Domains

section States

variable {domain : Domain}

/-- The precondition that later cases find when the first domain has been set. -/
def stateSetDone : Precondition where
  verdict := .conformant
  status := Status.success.code

theorem stateSet_clean (found : service.domains[0]? = some domain)
    (unwatched : domain.subscribed = false) :
    Leading base (runCase plan stateCases[0]) CaseReport.IsClean
      (standingAt config decisions suite discovered precondition) service
      (standingAt config decisions suite discovered (some stateSetDone))
      (service.withDomain 0 { domain with state := stateOff }) := by
  have performed : ∀ token,
      (Service.perform (CaseRun.nextHeader stateCases[0] stateCases[0].message token)
        [0, 0, stateOff]).CarriesOut service
          { next := service.withDomain 0 { domain with state := stateOff } } := by
    intro token
    have there : service.domains[UInt32.toNat 0]? = some domain := found
    have carriesOut := Service.setState_now
      (CaseRun.nextHeader stateCases[0] stateCases[0].message token) (.inr rfl) there
    rw [Service.announcement_of_unwatched unwatched] at carriesOut
    rw [Service.perform_stateSet _ rfl]
    exact carriesOut
  refine Cleanly.fixed (.nothing rfl) rfl (fun _ _ => rfl) (fun _ _ => rfl)
    (fun token => answer_performed base rfl (by decide) (performed token)) (.inl rfl)
    (fun _ _ => ExpectedStatus.toCheck_exact_isClean .success "status")
    (fun _ context _ descriptor none => absurd none List.not_mem_nil)
    fun context header stands => ⟨fun effect none => absurd none List.not_mem_nil, ?_⟩
  have settled : (settle stateCases[0] .conformant (some Status.success.code) context).standing =
      standingAt config decisions suite discovered (some stateSetDone) := by
    rw [Context.standing_settle_of_define _ rfl, stands]
    rfl
  exact settled

theorem stateGet_clean (found : service.domains[0]? = some domain)
    (off : domain.state = stateOff) :
    Leading base (runCase plan stateCases[1]) CaseReport.IsClean
      (standingAt config decisions suite discovered (some stateSetDone)) service
      (standingAt config decisions suite discovered (some stateSetDone)) service := by
  have performed : ∀ token,
      (Service.perform (CaseRun.nextHeader stateCases[1] stateCases[1].message token)
        [0]).CarriesOut
        service { returns := [stateOff], next := service } := by
    intro token
    rw [← off]
    exact Service.perform_stateGet _ rfl found []
  refine Cleanly.fixed (.nothing rfl) rfl (fun context stands => ?_) (fun _ _ => rfl)
    (fun token => answer_performed base rfl (by decide) (performed token)) (.inl rfl)
    (fun _ _ => ExpectedStatus.toCheck_exact_isClean .success "status")
    (fun _ context _ => ?_)
    fun context header stands => ⟨fun effect none => absurd none List.not_mem_nil, ?_⟩
  · have met : context.precondition = some stateSetDone := congrArg Standing.precondition stands
    have free : obstacle? stateCases[1] context = Precondition.obstacle? context.precondition := rfl
    rw [free, met]
    rfl
  · have expected : expectedReturns plan stateCases[1] context =
        [.check stateField stateOff] := rfl
    rw [expected, List.forall_mem_singleton]
    exact Descriptor.toCheck_isClean_of_word rfl rfl rfl rfl
  · exact (Context.standing_settle context (by decide) .conformant _).trans stands

/-- The status of a deferred set command follows from what is declared about the domain. -/
theorem deferredSetStatus_eq {context : Context} {number : UInt32} {declared : DomainConfig}
    (stands : context.standing = standingAt config decisions suite discovered precondition)
    (known : config.domains[number.toNat]? = some declared) :
    deferredSetStatus number context =
      some (.exact (if declared.deferred then .success else .notSupported)) := by
  simp [deferredSetStatus, declaredDomain?_eq stands known]

theorem stateSetDeferred_clean (found : service.domains[1]? = some domain)
    (known : config.domains[1]? = some domain.config) (unwatched : domain.subscribed = false)
    (deferred : domain.config.deferred = true) :
    Leading base (runCase plan stateCases[2]) CaseReport.IsClean
      (standingAt config decisions suite discovered precondition) service
      (standingAt config decisions suite discovered precondition)
      (service.withDomain 1 { domain with state := stateOff }) := by
  have performed : ∀ token,
      (Service.perform (CaseRun.nextHeader stateCases[2] stateCases[2].message token)
        [deferredFlag.mask, 1, stateOff]).CarriesOut service
          { posts :=
              [.delayed (CaseRun.nextHeader stateCases[2] stateCases[2].message token)
                Status.success.code [1, stateOff]]
            next := service.withDomain 1 { domain with state := stateOff } } := by
    intro token
    have there : service.domains[UInt32.toNat 1]? = some domain := found
    have carriesOut := Service.setState_later
      (CaseRun.nextHeader stateCases[2] stateCases[2].message token) (.inr rfl) there deferred
    rw [Service.announcement_of_unwatched unwatched] at carriesOut
    rw [Service.perform_stateSet _ rfl]
    exact carriesOut
  have answer (token : UInt16) :
      Switchboard.link.answer (runningPlatform base (some service) {})
        (.command (CaseRun.nextHeader stateCases[2] stateCases[2].message token)
          [deferredFlag.mask, 1, stateOff]) = _ :=
    answer_performed base rfl (by decide) (performed token)
  have completion := fun token =>
    Switchboard.answer_await
      (runningPlatform base (some (service.withDomain 1 { domain with state := stateOff })) {}) {}
      (.delayed (CaseRun.nextHeader stateCases[2] stateCases[2].message token) Status.success.code
        [1, stateOff]) rfl
  refine Cleanly.completed rfl rfl rfl rfl (fun _ _ => rfl) answer completion
    (fun context stands => ?_)
    (fun context _ descriptor none => absurd none List.not_mem_nil) ?_
  · have status : CaseRun.statusFor stateCases[2] none context =
        (deferredSetStatus 1 context).getD (.exact .success) := rfl
    have declared : deferredSetStatus 1 context = _ := deferredSetStatus_eq stands known
    rw [status, declared, deferred]
    rfl
  · simp only [List.forall_mem_cons]
    refine ⟨?_, ?_, by simp⟩
    · exact Descriptor.toCheck_isClean_of_word rfl rfl rfl rfl
    · exact Descriptor.toCheck_isClean_of_word rfl rfl rfl rfl

theorem stateSetDeferred_refused_clean (found : service.domains[1]? = some domain)
    (known : config.domains[1]? = some domain.config)
    (unable : domain.config.deferred = false) :
    Leading base (runCase plan stateCases[2]) CaseReport.IsClean
      (standingAt config decisions suite discovered precondition) service
      (standingAt config decisions suite discovered precondition) service := by
  have refused : ∀ token,
      (Service.perform (CaseRun.nextHeader stateCases[2] stateCases[2].message token)
        [deferredFlag.mask, 1, stateOff]).Refuses service .notSupported := by
    intro token
    rw [Service.perform_stateSet _ rfl]
    exact Service.setState_later_refused _ (.inr rfl) found unable
  refine Cleanly.fixed (.nothing rfl) rfl (fun _ _ => rfl) (fun _ _ => rfl)
    (fun token => answer_refused base rfl (by decide) (refused token)) (.inr (by decide))
    (fun context stands => ?_) (fun success => absurd success (by decide))
    fun context header stands => ⟨fun effect none => absurd none List.not_mem_nil, ?_⟩
  · have status : CaseRun.statusFor stateCases[2] none context =
        (deferredSetStatus 1 context).getD (.exact .success) := rfl
    have declared : deferredSetStatus 1 context = _ := deferredSetStatus_eq stands known
    rw [status, declared, unable]
    exact ExpectedStatus.toCheck_exact_isClean .notSupported "status"
  · exact (Context.standing_settle context (by decide) .conformant _).trans stands

theorem stateSetLater_clean (wellFormed : config.WellFormed) (runs : service.Runs config) :
    Cleanly Switchboard.link.answer (runCase plan stateCases[2]) CaseReport.IsClean
      ((standingAt config decisions suite discovered precondition).At
        (runningPlatform base (some service) {}))
      (Running config base (standingAt config decisions suite discovered precondition)) := by
  have inside : 1 < config.domains.length := wellFormed.two_le
  obtain ⟨domain, found, same, unwatched⟩ :=
    runs.domain_found (List.getElem?_eq_getElem inside)
  have known : config.domains[1]? = some domain.config := by
    rw [same]
    exact List.getElem?_eq_getElem inside
  cases able : domain.config.deferred with
  | true =>
      refine (stateSetDeferred_clean base found known unwatched able).weaken
        fun standing state holds => ⟨_, ?_, holds⟩
      exact runs.withDomain found rfl unwatched
  | false =>
      exact (stateSetDeferred_refused_clean base found known able).weaken
        fun standing state holds => ⟨_, runs, holds⟩

theorem invalidFlags_clean :
    Leading base (runCase plan stateCases[3]) CaseReport.IsClean
      (standingAt config decisions suite discovered precondition) service
      (standingAt config decisions suite discovered precondition) service := by
  exact Cleanly.refused ⟨rfl, rfl, fun _ => rfl, rfl, rfl⟩ rfl (by decide)
    (fun _ _ => rfl) (fun token => answer_refused base rfl (by decide) rfl)

section

variable (wellFormed : config.WellFormed) (runs : service.Runs config)

include wellFormed runs

theorem invalidSet_clean :
    Leading base (runCase plan stateCases[4]) CaseReport.IsClean
      (standingAt config decisions suite (announced config) precondition) service
      (standingAt config decisions suite (announced config) precondition) service := by
  have refused : ∀ token,
      (Service.perform (CaseRun.nextHeader stateCases[4] stateCases[4].message token)
        [0, UInt32.ofNat config.domains.length, stateOn]).Refuses service .notFound := by
    intro token
    rw [Service.perform_stateSet _ rfl]
    exact Service.setState_missing _ [] (.inl rfl) (.inl rfl)
      (length_le_unannounced wellFormed runs)
  refine Cleanly.refused ⟨rfl, rfl, fun _ => rfl, rfl, rfl⟩ rfl (by decide)
    (fun context stands => ?_)
    (fun token => answer_refused base rfl (by simp [maxPayloadWords]) (refused token))
  have unannounced : CaseRun.fixedParameters stateCases[4] context =
      .ok [0, firstUnannounced context, stateOn] := rfl
  rw [unannounced, firstUnannounced_eq stands]

theorem invalidGet_clean :
    Leading base (runCase plan stateCases[5]) CaseReport.IsClean
      (standingAt config decisions suite (announced config) precondition) service
      (standingAt config decisions suite (announced config) precondition) service := by
  refine Cleanly.refused ⟨rfl, rfl, fun _ => rfl, rfl, rfl⟩ rfl (by decide)
    (fun context stands => ?_)
    (fun token => answer_refused base rfl (by simp [maxPayloadWords])
      (Service.perform_stateGet_unknown _ rfl (length_le_unannounced wellFormed runs) []))
  have unannounced : CaseRun.fixedParameters stateCases[5] context =
      .ok [firstUnannounced context] := rfl
  rw [unannounced, firstUnannounced_eq stands]

end

end States

section Notifications

variable {domain : Domain} {case : Case} {before : CaseState}

def watchedChange : Post :=
  .notification Protocol.power stateChanged [callingAgent, watchedDomain, stateOn]

theorem noteChange_clean {σ : Type} {respond : Responder σ} {state : σ} (clean : before.IsClean) :
    Carries respond (CaseRun.playScript case (noteChange watchedChange.response)) before state
      fun _ _ finish last =>
        (finish.IsClean ∧ finish.context = before.context ∧ finish.expected = before.expected) ∧
          last = state := by
  have told : (notificationCheck watchedChange.response).IsClean := Check.isClean_passed _ _
  have noted : (before.affected [.check (notificationCheck watchedChange.response)]).IsClean :=
    clean.affected (by simpa [Effect.checks] using told)
  have kept : ∀ descriptor ∈ changeDescriptors,
      (descriptor.toCheck watchedChange.response.returns).IsClean := by
    simp only [changeDescriptors, List.forall_mem_cons]
    refine ⟨?_, ?_, ?_, by simp⟩
    · exact Descriptor.toCheck_isClean_of_display rfl rfl rfl
    · exact Descriptor.toCheck_isClean_of_word rfl rfl rfl rfl
    · exact Descriptor.toCheck_isClean_of_word rfl rfl rfl rfl
  rw [noteChange, CaseRun.carries_playScript_perform, Course.noteReturns]
  refine (CaseRun.carries_play_noteAll _ _).mpr ⟨⟨noted.noted ?_, rfl, rfl⟩, rfl⟩
  exact List.forall_mem_map.mpr kept

/-- A domain is watched, is switched on, tells so, and is not watched any more. -/
theorem watchChange_carries {board : Switchboard PlatformAudit.Service}
    (serves : board.ServesPower service) (watching : case = notifyCases[0])
    (available : service.stateNotify = true)
    (found : service.domains[watchedDomain.toNat]? = some domain)
    (able : domain.config.notify = true) (waiting : board.pending.notifications = [])
    (clean : before.IsClean) (expects : before.expected = []) :
    Carries Switchboard.link.answer (CaseRun.playScript case watchChange) before board
      fun _ execution finish last =>
        execution = .handled ∧ finish.IsClean ∧ finish.context = before.context ∧
          last = board.withPower (service.withDomain watchedDomain
            { domain with state := stateOn, subscribed := false }) ∧
          ∃ check ∈ finish.checks, check.outcome ≠ .skip := by
  have protocol : case.protocol = Protocol.power := congrArg Case.protocol watching
  have message : case.message = stateNotify := congrArg Case.message watching
  have immediate : case.delayed = none := congrArg Case.delayed watching
  have silent : case.hooks.afterResponse = fun _ => .done () := by
    rw [watching]
    rfl
  have accepts : ∀ context, ((CaseRun.statusFor case none context).toCheck "status"
      Status.success.code).IsClean := by
    rw [watching]
    exact fun _ => ExpectedStatus.toCheck_exact_isClean .success "status"
  -- What the platform does in turn, from one state of its power protocol to the next.
  let watched := service.withDomain watchedDomain { domain with subscribed := true }
  let switched := service.withDomain watchedDomain
    { domain with state := stateOn, subscribed := true }
  let released := service.withDomain watchedDomain
    { domain with state := stateOn, subscribed := false }
  have subscribes : ∀ token,
      (Service.perform (CaseRun.nextHeader case case.message token) [watchedDomain, 1]).CarriesOut
        service { next := watched } := by
    intro token
    rw [Handling.CarriesOut, Service.perform_stateNotify _ message available]
    exact Service.subscribe_carriesOut 1 [] found able
  have switches : ∀ token,
      (Service.perform (CaseRun.nextHeader case stateSet token)
        [0, watchedDomain, stateOn]).CarriesOut
          watched { posts := [watchedChange], next := switched } := by
    intro token
    rw [Service.perform_stateSet _ rfl]
    exact Service.setState_watched _ (.inl rfl) found
  have unsubscribes : ∀ token,
      (Service.perform (CaseRun.nextHeader case case.message token) [watchedDomain, 0]).CarriesOut
        switched { next := released } := by
    intro token
    refine (Service.perform_stateNotify _ message ?_ _).trans (Service.subscribe_again found able)
    exact available
  have serving (next : Service) (board : Switchboard PlatformAudit.Service) :
      (board.withPower next).ServesPower next := board.servesPower_withPower next
  -- The domain is watched.
  rw [watchChange, CaseRun.carries_playScript_checked]
  apply (CaseRun.sendChecked_clean clean
    (board_performed serves protocol (by simp [maxPayloadWords]) (subscribes _)) immediate silent
    (accepts _) (fun _ => by simp [expects])).mono
  intro _ answer enabled last sent
  obtain ⟨rfl, rfl, enabledClean, enabledContext, enabledExpected⟩ := sent
  -- It is switched on, and the change is told.
  dsimp only
  rw [if_pos (Response.answering_succeeded _ _), CaseRun.carries_playScript_send]
  apply (CaseRun.carries_send_answered
    (board_performed (serving watched board) protocol (by simp [maxPayloadWords])
      (switches _)) _).mpr
  dsimp only
  rw [CaseRun.carries_playScript_bind, Course.noteStatus, CaseRun.carries_playScript_perform,
    CaseRun.carries_play_done, CaseRun.carries_playScript_await, Switchboard.withPower_withPower]
  apply (CaseRun.carries_await_answered (Switchboard.answer_await (board.withPower switched)
    board.pending watchedChange waiting) _).mpr
  rw [CaseRun.carries_playScript_bind]
  refine (noteChange_clean ?_).mono fun _ _ told last noted => ?_
  · apply CaseState.IsClean.affected enabledClean
    simpa [Effect.checks] using ExpectedStatus.toCheck_exact_isClean .success "state set"
  · obtain ⟨⟨toldClean, toldContext, toldExpected⟩, rfl⟩ := noted
    have none : told.expected = [] := toldExpected.trans (enabledExpected.trans expects)
    have answer := fun token => board_performed (serving switched board) protocol
      (by simp [maxPayloadWords]) (unsubscribes token)
    -- It is not watched any more.
    rw [CaseRun.carries_playScript_checked]
    apply ((CaseRun.sendChecked_clean toldClean (answer _) immediate silent (accepts _)
      (fun _ => by simp [none])).and
        (CaseRun.sendChecked_made (answer _) immediate (.nothing silent))).mono
    intro _ _ finish last sent
    obtain ⟨⟨-, rfl, finishClean, context, -⟩, made⟩ := sent
    refine ⟨rfl, finishClean, context.trans (toldContext.trans enabledContext), ?_, made⟩
    exact Switchboard.withPower_withPower board switched released

theorem watchChange_clean (available : service.stateNotify = true)
    (found : service.domains[watchedDomain.toNat]? = some domain)
    (able : domain.config.notify = true) :
    Leading base (runCase plan notifyCases[0]) CaseReport.IsClean
      (standingAt config decisions suite discovered precondition) service
      (standingAt config decisions suite discovered precondition)
      (service.withDomain watchedDomain { domain with state := stateOn, subscribed := false }) := by
  apply Cleanly.scripted rfl
  intro start _ holds clean expects
  obtain ⟨stands, rfl⟩ := holds
  have serves := RunningPlatform.handler_power base service {}
  apply (watchChange_carries serves rfl available found able rfl clean expects).mono
  intro _ _ finish last ran
  obtain ⟨handled, finishClean, context, same, -⟩ := ran
  exact ⟨handled, finishClean, context ▸ stands, same⟩

theorem invalidNotify_clean (wellFormed : config.WellFormed) (runs : service.Runs config)
    (available : service.stateNotify = true) :
    Leading base (runCase plan notifyCases[1]) CaseReport.IsClean
      (standingAt config decisions suite (announced config) precondition) service
      (standingAt config decisions suite (announced config) precondition) service := by
  have refused : ∀ token,
      (Service.perform (CaseRun.nextHeader notifyCases[1] notifyCases[1].message token)
        [UInt32.ofNat config.domains.length, 1]).Refuses service .notFound := by
    intro token
    rw [Handling.Refuses, Service.perform_stateNotify _ rfl available]
    exact Service.subscribe_unknown [1] (length_le_unannounced wellFormed runs)
  refine Cleanly.refused ⟨rfl, rfl, fun _ => rfl, rfl, rfl⟩ rfl (by decide)
    (fun context stands => ?_)
    (fun token => answer_refused base rfl (by simp [maxPayloadWords]) (refused token))
  have unannounced : CaseRun.fixedParameters notifyCases[1] context =
      .ok [firstUnannounced context, 1] := rfl
  rw [unannounced, firstUnannounced_eq stands]

end Notifications

section Suites

variable (wellFormed : config.WellFormed)

include wellFormed

theorem discoverySuite_clean :
    Cleanly Switchboard.link.answer
      (runSuite plan (.ofCases "power discovery" discoveryCases) discoverySuite)
      SuiteReport.IsClean (Running config base (standingAt config [] 0 {} none))
      (Running config base
        ((standingAt config [] 0 (announced config) none).decided notifySuite
          config.stateNotify)) := by
  refine Running.cleanly base fun service runs => Cleanly.weaken ?_
    fun _ _ holds => ⟨service, runs, holds⟩
  apply Cleanly.runSuite (fun _ none => absurd none List.not_mem_nil)
  apply Cleanly.runCases_cons 0 (version_clean base runs)
  apply Cleanly.runCases_cons 1 (attributes_clean base wellFormed runs)
  apply Cleanly.runCases_cons 2 (mandatory_clean base)
  apply Cleanly.runCases_cons 3 (probe_clean base runs (by decide))
  exact Cleanly.runCases_cons 4 (invalidMessage_clean base) (Cleanly.runCases_nil 5)

theorem domainSuite_clean :
    Cleanly Switchboard.link.answer
      (runSuite plan (.ofCases "power domain attributes" domainCases) domainSuite)
      SuiteReport.IsClean
      (Running config base
        ((standingAt config [] 0 (announced config) none).decided notifySuite config.stateNotify))
      (Running config base
        ((standingAt config [] domainSuite (announced config) none).decided notifySuite
          config.stateNotify)) := by
  refine Running.cleanly base fun service runs => Cleanly.weaken ?_
    fun _ _ holds => ⟨service, runs, holds⟩
  apply Cleanly.runSuite (List.forall_mem_singleton.mpr (by change 3 ≠ 1; decide))
  apply Cleanly.runCases_cons 0 (discoverDomains_clean base wellFormed runs)
  exact Cleanly.runCases_cons 1 (invalidDomainAttributes_clean base wellFormed runs)
    (Cleanly.runCases_nil 2)

theorem stateSuite_clean :
    Cleanly Switchboard.link.answer
      (runSuite plan (.ofCases "power state" stateCases) stateSuite) SuiteReport.IsClean
      (Running config base
        ((standingAt config [] domainSuite (announced config) none).decided notifySuite
          config.stateNotify))
      (Running config base
        ((standingAt config [] stateSuite (announced config) (some stateSetDone)).decided
          notifySuite config.stateNotify)) := by
  apply Running.cleanly base
  intro service runs
  have inside : 0 < config.domains.length := Nat.lt_of_lt_of_le (by decide) wellFormed.two_le
  obtain ⟨domain, found, -, unwatched⟩ := runs.domain_found (List.getElem?_eq_getElem inside)
  have switched := Service.domains_withDomain { domain with state := stateOff }
    (show service.domains[(0 : UInt32).toNat]? = some domain from found)
  have switchedRuns : (service.withDomain 0 { domain with state := stateOff }).Runs config :=
    runs.withDomain found rfl unwatched
  -- The state that is read is the one that was set, whatever it was before.
  apply Cleanly.runSuite (List.forall_mem_singleton.mpr (by change 3 ≠ 2; decide))
  apply Cleanly.runCases_cons 0 (stateSet_clean base found unwatched)
  apply Cleanly.runCases_cons 1 (stateGet_clean base switched rfl)
  apply Cleanly.runCases_cons 2 (stateSetLater_clean base wellFormed switchedRuns)
  -- Whether the second domain could be set late does not matter from here on.
  refine Running.cleanly base fun service runs => Cleanly.weaken ?_
    fun _ _ holds => ⟨service, runs, holds⟩
  apply Cleanly.runCases_cons 3 (invalidFlags_clean base)
  apply Cleanly.runCases_cons 4 (invalidSet_clean base wellFormed runs)
  exact Cleanly.runCases_cons 5 (invalidGet_clean base wellFormed runs) (Cleanly.runCases_nil 6)

theorem notifySuite_clean :
    Cleanly Switchboard.link.answer
      (runSuite plan (.ofCases "power state notify" notifyCases) notifySuite) SuiteReport.IsClean
      (Running config base
        ((standingAt config [] stateSuite (announced config) (some stateSetDone)).decided
          notifySuite config.stateNotify))
      (Running config base
        ((standingAt config [] notifySuite (announced config) (some stateSetDone)).decided
          notifySuite config.stateNotify)) := by
  apply Running.cleanly base
  intro service runs
  have inside : 0 < config.domains.length := Nat.lt_of_lt_of_le (by decide) wellFormed.two_le
  obtain ⟨domain, found, same, -⟩ := runs.domain_found (List.getElem?_eq_getElem inside)
  refine Cleanly.runGated (by change 3 ≠ 0; decide) (fun told => ?_)
    fun _ => ⟨service, runs, rfl, rfl⟩
  have available : service.stateNotify = true := runs.stateNotify.trans told
  have able : domain.config.notify = true :=
    wellFormed.watched told _ (same ▸ List.getElem?_eq_getElem inside)
  have watchedRuns : (service.withDomain watchedDomain
      { domain with state := stateOn, subscribed := false }).Runs config :=
    runs.withDomain found rfl rfl
  refine Cleanly.weaken ?_ fun _ _ holds => ⟨_, watchedRuns, holds⟩
  apply Cleanly.runCases_cons 0 (watchChange_clean base available found able)
  exact Cleanly.runCases_cons 1 (invalidNotify_clean base wellFormed watchedRuns available)
    (Cleanly.runCases_nil 2)

/-- The power plan finds nothing wrong with a well-formed platform, whatever the states of its
domains are. -/
theorem suites_clean (runs : service.Runs config) :
    Cleanly Switchboard.link.answer (runSuites plan plan.suites 0) SuiteReport.AllClean
      ((plan.context (some (.power (.ofConfig config)))).standing.At
        (runningPlatform base (some service) {}))
      (Running config base
        ((standingAt config [] notifySuite (announced config) (some stateSetDone)).decided
          notifySuite config.stateNotify)) := by
  have suites := Cleanly.runSuites_cons discoverySuite (discoverySuite_clean base wellFormed) <|
    Cleanly.runSuites_cons domainSuite (domainSuite_clean base wellFormed) <|
      Cleanly.runSuites_cons stateSuite (stateSuite_clean base wellFormed) <|
        Cleanly.runSuites_cons notifySuite (notifySuite_clean base wellFormed)
          (Cleanly.runSuites_nil 4)
  exact fun carried state holds => suites carried state ⟨service, runs, holds⟩

end Suites

end PlatformAudit.Power
