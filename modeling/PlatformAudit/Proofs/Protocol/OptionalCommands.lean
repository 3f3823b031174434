import PlatformAudit.Audit.Registry
import PlatformAudit.Protocol.Base.Plan
import PlatformAudit.Protocol.Power.Plan
import PlatformAudit.Proofs.Audit.Gating

/-!
# Optional commands

The plans of the base and of the power protocol are gated.  The name of an agent is asked for, and a
change of a power domain is subscribed to, only after the platform has said that it implements the
command.
-/

universe w

namespace PlatformAudit

/-- Commands of one message are not restricted. -/
def Licence.Permits (licence : Licence) (message : UInt8) : Prop :=
  ∀ parameters, licence.command message parameters

/-- Lists that were found and commands of one message are not restricted. -/
structure Licence.Allows (licence : Licence) (message : UInt8) : Prop where
  commands : licence.Permits message
  findings : ∀ name ids, licence.effect (.discover (.record name ids))

namespace Gate

/-- A bystander may do what it likes with a message that is neither the question of a gate nor its
command. -/
theorem bystander_allows {gate : Gate} {message : UInt8} (other : message ≠ gate.message)
    (noQuestion : message ≠ Protocol.messageAttributesMessage) :
    gate.bystander.Allows message where
  findings _ _ _ _ := Effect.noConfusion
  commands _ := ⟨other, fun question => noQuestion question.1⟩

theorem bystander_asks {gate : Gate} {asked : UInt8}
    (noQuestion : gate.message ≠ Protocol.messageAttributesMessage)
    (other : asked ≠ gate.message) :
    gate.bystander.command Protocol.messageAttributesMessage [asked.toUInt32] := by
  refine ⟨noQuestion.symm, fun question => other ?_⟩
  exact UInt8.toUInt32_inj.mp (List.cons.inj question.2).1

theorem guarded_allows {gate : Gate} {message : UInt8}
    (noQuestion : message ≠ Protocol.messageAttributesMessage) :
    gate.guarded.Allows message where
  findings _ _ := trivial
  commands _ question := noQuestion question.1

end Gate

namespace Case.Within

variable {licence : Licence} {case : Case}

/-- A case that looks at answers and has no script. -/
theorem standard (execute : case.hooks.execute = .done .standard)
    (afterResponse : ∀ response, (case.hooks.afterResponse response).Within licence)
    (onSilence : case.hooks.onSilence = .done ())
    (fixed : ∀ context parameters, CaseRun.fixedParameters case context = .ok parameters →
      licence.command case.message parameters) :
    case.Within licence where
  execute := by
    rw [execute]
    trivial
  afterResponse := afterResponse
  onSilence := by
    rw [onSilence]
    trivial
  fixed := fixed

theorem scripted (execute : case.hooks.execute.Within licence case.message)
    (afterResponse : case.hooks.afterResponse = fun _ => .done ())
    (onSilence : case.hooks.onSilence = .done ())
    (fixed : ∀ context parameters, CaseRun.fixedParameters case context = .ok parameters →
      licence.command case.message parameters) :
    case.Within licence where
  execute := execute
  afterResponse response := by
    rw [afterResponse]
    trivial
  onSilence := by
    rw [onSilence]
    trivial
  fixed := fixed

theorem gate {gate : Gate} (hooks : case.hooks = gate.hooks)
    (decides : ∀ mustRun, licence.effect (.decide gate.suite mustRun))
    (fixed : ∀ context parameters, CaseRun.fixedParameters case context = .ok parameters →
      licence.command case.message parameters) :
    case.Within licence where
  execute := by
    rw [hooks]
    trivial
  afterResponse response := by
    rw [hooks]
    refine .reacts fun context => ?_
    simp [Gate.afterResponse, licence.checks, decides]
  onSilence := by
    rw [hooks]
    refine .performs ?_
    simp [Gate.onSilence, licence.checks, decides]
  fixed := fixed

end Case.Within

namespace Protocol

theorem askForEach_within {licence : Licence} {messages : List UInt8}
    (asks : ∀ message ∈ messages,
      licence.command messageAttributesMessage [message.toUInt32]) :
    (askForEach messages).Within licence messageAttributesMessage := by
  refine Course.Within.bind (.forEach fun message member => ?_) fun _ => trivial
  refine Course.Within.bind ⟨licence.checks _, trivial⟩ fun _ => ?_
  exact Course.Within.bind ⟨asks message member, fun _ => trivial⟩ fun _ => trivial

end Protocol

namespace Base

variable {licence : Licence}

theorem listPages_within (permits : licence.Permits discoverListProtocols) (total skip : UInt32)
    (found : List UInt8) :
    (listPages total skip found).Within licence discoverListProtocols := by
  induction skip, found using listPages.induct total with
  | case1 skip found more induction =>
      rw [listPages_eq, if_pos more]
      refine ⟨permits _, fun answer => ?_⟩
      cases answer with
      | none => trivial
      | some response =>
          dsimp only
          split
          · split
            · exact Course.Within.bind ⟨licence.checks _, trivial⟩ fun _ => trivial
            · rename_i ids accepted
              split
              · trivial
              · rename_i next added
                exact induction response ids accepted next added
          · trivial
  | case2 skip found complete =>
      rw [listPages_eq, if_neg complete]
      trivial

theorem listProtocols_within (permits : licence.Permits discoverListProtocols)
    (records : ∀ ids, licence.effect (.discover (.record Entity.protocols ids))) :
    listProtocols.Within licence discoverListProtocols := by
  apply Course.Within.context
  intro context
  split
  · exact Course.Within.bind ⟨licence.checks _, trivial⟩ fun _ => trivial
  · apply Course.Within.bind (listPages_within permits _ _ _)
    intro found
    exact ⟨licence.checks _, licence.checks _, records _, trivial⟩

theorem discoverAgents_within (permits : licence.Permits discoverAgent) :
    discoverAgents.Within licence discoverAgent := by
  apply Course.Within.context
  intro context
  split
  · exact Course.Within.bind ⟨licence.checks _, trivial⟩ fun _ => trivial
  · refine Course.Within.bind (.forEach fun agent _ => ?_) fun _ => trivial
    exact Course.Within.bind ⟨permits _, fun _ => trivial⟩ fun _ => trivial

/-- What the cases of the base protocol do.  Of what they find, only the attributes and the list of
protocols are kept. -/
theorem case_within (permits : ∀ message, licence.Permits message)
    (decides : ∀ mustRun, licence.effect (.decide agentSuite mustRun))
    (records : ∀ ids, licence.effect (.discover (.record Entity.protocols ids)))
    {case : Case} (inPlan : case ∈ plan.cases)
    (keeps : case = discoveryCases[1] →
      ∀ response, ∀ effect ∈ keepAttributes response, licence.effect effect) :
    case.Within licence := by
  have cases_eq :
      plan.cases = discoveryCases ++ identificationCases ++ protocolListCases ++ agentCases := rfl
  rw [cases_eq] at inPlan
  rcases List.mem_append.mp inPlan with earlier | agents
  · rcases List.mem_append.mp earlier with early | lists
    · rcases List.mem_append.mp early with discovery | identification
      · simp only [discoveryCases, List.mem_cons, List.not_mem_nil, or_false] at discovery
        rcases discovery with rfl | rfl | rfl | rfl | rfl | rfl
        case inr.inl =>
          exact .standard rfl (fun response => .performs (keeps rfl response)) rfl
            fun _ _ _ => permits _ _
        case inr.inr.inl =>
          exact .scripted (Protocol.askForEach_within fun _ _ => permits _ _)
            rfl rfl fun _ _ _ => permits _ _
        case inr.inr.inr.inl =>
          exact .gate rfl decides fun _ _ _ => permits _ _
        all_goals exact .scripted trivial rfl rfl fun _ _ _ => permits _ _
      · simp only [identificationCases, List.mem_cons, List.not_mem_nil, or_false]
          at identification
        rcases identification with rfl | rfl | rfl <;>
          exact .scripted trivial rfl rfl fun _ _ _ => permits _ _
    · simp only [protocolListCases, List.mem_cons, List.not_mem_nil, or_false] at lists
      rcases lists with rfl | rfl
      · exact .scripted (listProtocols_within (permits _) records) rfl rfl
          fun _ _ _ => permits _ _
      · exact .scripted trivial rfl rfl fun _ _ _ => permits _ _
  · simp only [agentCases, List.mem_cons, List.not_mem_nil, or_false] at agents
    rcases agents with rfl | rfl
    · exact .scripted (discoverAgents_within (permits _)) rfl rfl
        fun _ _ _ => permits _ _
    · exact .scripted trivial rfl rfl fun _ _ _ => permits _ _

/-- The gate of the suite that asks for agents by name. -/
def agentGate : Gate where
  suite := agentSuite
  message := discoverAgent
  capability := declaredCapability discoverAgent

theorem mem_keepAttributes {response : Response} {effect : Effect}
    (member : effect ∈ keepAttributes response) :
    (∃ word, effect = .discover (.setValue Entity.protocolCount (protocolCount.read word))) ∨
      (∃ word, effect = .discover (.setValue Entity.agentCount (agentCount.read word))) ∨
      ∃ ids, effect = .discover (.record Entity.agents ids) := by
  unfold keepAttributes at member
  split at member
  case h_1 => cases member
  case h_2 word _ =>
    split at member
    case isTrue =>
      simp only [List.mem_cons, List.not_mem_nil, or_false] at member
      rcases member with rfl | rfl | rfl
      · exact .inl ⟨word, rfl⟩
      · exact .inr (.inl ⟨word, rfl⟩)
      · exact .inr (.inr ⟨_, rfl⟩)
    case isFalse => cases member

theorem keepAttributes_quiet (response : Response) :
    ∀ effect ∈ keepAttributes response, effect.IsQuiet := by
  intro effect member
  rcases mem_keepAttributes member with ⟨_, rfl⟩ | ⟨_, rfl⟩ | ⟨_, rfl⟩ <;>
    exact fun _ _ => Effect.noConfusion

/-- A base command other than the two that the gate is about is not restricted. -/
private theorem allows {message : UInt8}
    (other : message ≠ discoverAgent ∧ message ≠ Protocol.messageAttributesMessage) :
    agentGate.bystander.Allows message :=
  Gate.bystander_allows other.1 other.2

theorem early_within : ∀ case ∈ discoveryCases.take 3, case.Within agentGate.bystander := by
  intro case member
  simp only [discoveryCases, List.take_succ_cons, List.take_zero, List.mem_cons,
    List.not_mem_nil, or_false] at member
  rcases member with rfl | rfl | rfl
  · exact .scripted trivial rfl rfl fun _ _ _ => (allows (by decide)).commands _
  · exact .standard rfl (fun response => .performs (keepAttributes_quiet response)) rfl
      fun _ _ _ => (allows (by decide)).commands _
  · refine .scripted ?_ rfl rfl ?_
    · apply Protocol.askForEach_within
      intro message member
      apply Gate.bystander_asks (by decide)
      rintro rfl
      exact absurd member (by decide)
    · intro context parameters fixed
      have none : [] = parameters := Except.ok.inj fixed
      subst none
      exact ⟨by decide, by decide⟩

theorem late_within : ∀ case ∈ discoveryCases.drop 4, case.Within agentGate.bystander := by
  intro case member
  simp only [discoveryCases, List.drop_succ_cons, List.drop_zero, List.mem_cons,
    List.not_mem_nil, or_false] at member
  rcases member with rfl | rfl
  · refine .scripted trivial rfl rfl fun context parameters fixed => ?_
    have undefined : [Protocol.undefinedMessage.toUInt32] = parameters := Except.ok.inj fixed
    subst undefined
    exact Gate.bystander_asks (by decide) (by decide)
  · exact .scripted trivial rfl rfl fun _ _ _ => (allows (by decide)).commands _

theorem identificationCases_within :
    ∀ case ∈ identificationCases, case.Within agentGate.bystander := by
  intro case member
  simp only [identificationCases, List.mem_cons, List.not_mem_nil, or_false] at member
  rcases member with rfl | rfl | rfl <;>
    exact .scripted trivial rfl rfl fun _ _ _ => (allows (by decide)).commands _

theorem protocolListCases_within :
    ∀ case ∈ protocolListCases, case.Within agentGate.bystander := by
  intro case member
  simp only [protocolListCases, List.mem_cons, List.not_mem_nil, or_false] at member
  rcases member with rfl | rfl
  · have free : agentGate.bystander.Allows discoverListProtocols := allows (by decide)
    exact .scripted (listProtocols_within free.commands (free.findings _)) rfl rfl
      fun _ _ _ => free.commands _
  · exact .scripted trivial rfl rfl fun _ _ _ => (allows (by decide)).commands _

theorem agentCases_within : ∀ case ∈ agentCases, case.Within agentGate.guarded := by
  have guarded : agentGate.guarded.Allows discoverAgent := Gate.guarded_allows (by decide)
  intro case member
  simp only [agentCases, List.mem_cons, List.not_mem_nil, or_false] at member
  rcases member with rfl | rfl
  · exact .scripted (discoverAgents_within guarded.commands) rfl rfl
      fun _ _ _ => guarded.commands _
  · exact .scripted trivial rfl rfl fun _ _ _ => guarded.commands _

/-- What opens the gate: success, and no declaration that the command is not there. -/
theorem agentGate_opens_iff (fixture : Option Fixture) (answer : Answer) :
    agentGate.Opens (plan.context fixture) answer ↔
      ∃ response, answer = .ok response ∧ response.status = Status.success.code ∧
        ∀ expectations, fixture = some (.base expectations) →
          (expectations.declared = Capability.allCommands ∨
            expectations.declared &&& Capability.commandBit discoverAgent ≠ 0) →
          expectations.supported &&& Capability.commandBit discoverAgent ≠ 0 := by
  have capability : agentGate.capability (plan.context fixture) =
      declaredCapability discoverAgent (plan.context fixture) := rfl
  have declared : expectations? (plan.context fixture) = fixture.bind Fixture.base? := rfl
  refine exists_congr fun response => and_congr_right fun _ => and_congr_right fun _ => ?_
  rw [capability, declaredCapability, declared]
  rcases fixture with _ | (expectations | expectations | lone | value) <;>
    simp [Fixture.base?, Expectations.capability, Capability.declares, agentGate] <;> decide

def agentGating : Gating where
  plan := plan
  gate := agentGate
  opening := .ofCases "base discovery" discoveryCases
  early := discoveryCases.take 3
  probe := discoveryCases[3]
  late := discoveryCases.drop 4
  between :=
    [ .ofCases "base identification" identificationCases
    , .ofCases "base protocol list" protocolListCases ]
  gated := .ofCases "base discover agent" agentCases
  suites_eq := rfl
  discoverySuite_eq := rfl
  suite_eq := rfl
  active_eq := rfl
  capability_congr first second same := by
    simp only [agentGate, declaredCapability, expectations?, same]
  probe_protocol := rfl
  probe_hooks := rfl
  probe_message := rfl
  probe_parameters := rfl
  probe_invalidSlot := rfl
  probe_precondition := rfl
  probe_delayed := rfl
  message_ne := by decide
  early_within := early_within
  late_within := late_within
  between_within := by
    simp only [List.forall_mem_cons, List.not_mem_nil, false_implies, implies_true, and_true]
    exact ⟨identificationCases_within, protocolListCases_within⟩
  gated_within := agentCases_within

end Base

namespace Power

variable {licence : Licence}

theorem discoverDomains_within (permits : licence.Permits domainAttributes) :
    discoverDomains.Within licence domainAttributes := by
  apply Course.Within.context
  intro context
  split
  · exact Course.Within.bind ⟨licence.checks _, trivial⟩ fun _ => trivial
  · refine Course.Within.bind (.forEach fun domain _ => ?_) fun _ => trivial
    exact Course.Within.bind ⟨permits _, fun _ => trivial⟩ fun _ => trivial

theorem noteChange_within {message : UInt8} (notification : Response) :
    (noteChange notification).Within licence message :=
  ⟨licence.checks _, .noteAll _⟩

theorem watchChange_within (permits : licence.Permits stateNotify)
    (sets : ∀ parameters, licence.command stateSet parameters) :
    watchChange.Within licence stateNotify := by
  refine ⟨permits _, fun enabled => ?_⟩
  cases enabled with
  | none => trivial
  | some enabled =>
      dsimp only
      split
      · refine ⟨sets _, fun set => ?_⟩
        cases set with
        | none => trivial
        | some set =>
            refine Course.Within.bind ⟨licence.checks _, trivial⟩ fun _ notification => ?_
            refine Course.Within.bind ?_ fun _ => ⟨permits _, fun _ => trivial⟩
            cases notification with
            | none => trivial
            | some notification => exact noteChange_within notification
      · trivial

/-- What the cases of the power protocol do.  Of what they find, only the attributes are kept. -/
theorem case_within (permits : ∀ message, licence.Permits message)
    (decides : ∀ mustRun, licence.effect (.decide notifySuite mustRun))
    {case : Case} (inPlan : case ∈ plan.cases)
    (keeps : case = discoveryCases[1] →
      ∀ response, ∀ effect ∈ keepAttributes response, licence.effect effect) :
    case.Within licence := by
  have cases_eq : plan.cases = discoveryCases ++ domainCases ++ stateCases ++ notifyCases := rfl
  rw [cases_eq] at inPlan
  rcases List.mem_append.mp inPlan with earlier | notify
  · rcases List.mem_append.mp earlier with early | state
    · rcases List.mem_append.mp early with discovery | domains
      · simp only [discoveryCases, List.mem_cons, List.not_mem_nil, or_false] at discovery
        rcases discovery with rfl | rfl | rfl | rfl | rfl
        case inr.inl =>
          exact .standard rfl (fun response => .performs (keeps rfl response)) rfl
            fun _ _ _ => permits _ _
        case inr.inr.inl =>
          exact .scripted (Protocol.askForEach_within fun _ _ => permits _ _)
            rfl rfl fun _ _ _ => permits _ _
        case inr.inr.inr.inl =>
          exact .gate rfl decides fun _ _ _ => permits _ _
        all_goals exact .scripted trivial rfl rfl fun _ _ _ => permits _ _
      · simp only [domainCases, List.mem_cons, List.not_mem_nil, or_false] at domains
        rcases domains with rfl | rfl
        · exact .scripted (discoverDomains_within (permits _)) rfl rfl
            fun _ _ _ => permits _ _
        · exact .scripted trivial rfl rfl fun _ _ _ => permits _ _
    · simp only [stateCases, List.mem_cons, List.not_mem_nil, or_false] at state
      rcases state with rfl | rfl | rfl | rfl | rfl | rfl <;>
        exact .scripted trivial rfl rfl fun _ _ _ => permits _ _
  · simp only [notifyCases, List.mem_cons, List.not_mem_nil, or_false] at notify
    rcases notify with rfl | rfl
    · exact .scripted (watchChange_within (permits _) (permits _)) rfl rfl
        fun _ _ _ => permits _ _
    · exact .scripted trivial rfl rfl fun _ _ _ => permits _ _

def notifyGate : Gate where
  suite := notifySuite
  message := stateNotify
  capability := declaredCapability stateNotify

theorem keepAttributes_quiet (response : Response) :
    ∀ effect ∈ keepAttributes response, effect.IsQuiet := by
  intro effect member
  unfold keepAttributes at member
  split at member
  · simp at member
  · split at member
    · simp only [List.mem_cons, List.not_mem_nil, or_false] at member
      rcases member with rfl | rfl <;> exact fun _ _ => Effect.noConfusion
    · simp at member

private theorem allows {message : UInt8}
    (other : message ≠ stateNotify ∧ message ≠ Protocol.messageAttributesMessage) :
    notifyGate.bystander.Allows message :=
  Gate.bystander_allows other.1 other.2

theorem early_within : ∀ case ∈ discoveryCases.take 3, case.Within notifyGate.bystander := by
  intro case member
  simp only [discoveryCases, List.take_succ_cons, List.take_zero, List.mem_cons,
    List.not_mem_nil, or_false] at member
  rcases member with rfl | rfl | rfl
  · exact .scripted trivial rfl rfl fun _ _ _ => (allows (by decide)).commands _
  · exact .standard rfl (fun response => .performs (keepAttributes_quiet response)) rfl
      fun _ _ _ => (allows (by decide)).commands _
  · refine .scripted ?_ rfl rfl ?_
    · apply Protocol.askForEach_within
      intro message member
      apply Gate.bystander_asks (by decide)
      rintro rfl
      exact absurd member (by decide)
    · intro context parameters fixed
      have none : [] = parameters := Except.ok.inj fixed
      subst none
      exact ⟨by decide, by decide⟩

theorem late_within : ∀ case ∈ discoveryCases.drop 4, case.Within notifyGate.bystander := by
  intro case member
  simp only [discoveryCases, List.drop_succ_cons, List.drop_zero, List.mem_cons,
    List.not_mem_nil, or_false] at member
  subst member
  exact .scripted trivial rfl rfl fun _ _ _ => (allows (by decide)).commands _

theorem domainCases_within : ∀ case ∈ domainCases, case.Within notifyGate.bystander := by
  intro case member
  simp only [domainCases, List.mem_cons, List.not_mem_nil, or_false] at member
  rcases member with rfl | rfl
  · exact .scripted (discoverDomains_within (allows (by decide)).commands) rfl rfl
      fun _ _ _ => (allows (by decide)).commands _
  · exact .scripted trivial rfl rfl fun _ _ _ => (allows (by decide)).commands _

theorem stateCases_within : ∀ case ∈ stateCases, case.Within notifyGate.bystander := by
  intro case member
  simp only [stateCases, List.mem_cons, List.not_mem_nil, or_false] at member
  rcases member with rfl | rfl | rfl | rfl | rfl | rfl <;>
    exact .scripted trivial rfl rfl fun _ _ _ => (allows (by decide)).commands _

theorem notifyCases_within : ∀ case ∈ notifyCases, case.Within notifyGate.guarded := by
  have guarded : notifyGate.guarded.Allows stateNotify := Gate.guarded_allows (by decide)
  have sets : notifyGate.guarded.Allows stateSet := Gate.guarded_allows (by decide)
  intro case member
  simp only [notifyCases, List.mem_cons, List.not_mem_nil, or_false] at member
  rcases member with rfl | rfl
  · exact .scripted (watchChange_within guarded.commands sets.commands) rfl rfl
      fun _ _ _ => guarded.commands _
  · exact .scripted trivial rfl rfl fun _ _ _ => guarded.commands _

theorem notifyGate_opens_iff (fixture : Option Fixture) (answer : Answer) :
    notifyGate.Opens (plan.context fixture) answer ↔
      ∃ response, answer = .ok response ∧ response.status = Status.success.code ∧
        ∀ expectations, fixture = some (.power expectations) →
          (expectations.declared = Capability.allCommands ∨
            expectations.declared &&& Capability.commandBit stateNotify ≠ 0) →
          expectations.supported &&& Capability.commandBit stateNotify ≠ 0 := by
  have capability : notifyGate.capability (plan.context fixture) =
      declaredCapability stateNotify (plan.context fixture) := rfl
  have declared : expectations? (plan.context fixture) = fixture.bind Fixture.power? := rfl
  refine exists_congr fun response => and_congr_right fun _ => and_congr_right fun _ => ?_
  rw [capability, declaredCapability, declared]
  rcases fixture with _ | (expectations | expectations | lone | value) <;>
    simp [Fixture.power?, Expectations.capability, Capability.declares, notifyGate] <;> decide

def notifyGating : Gating where
  plan := plan
  gate := notifyGate
  opening := .ofCases "power discovery" discoveryCases
  early := discoveryCases.take 3
  probe := discoveryCases[3]
  late := discoveryCases.drop 4
  between :=
    [ .ofCases "power domain attributes" domainCases
    , .ofCases "power state" stateCases ]
  gated := .ofCases "power state notify" notifyCases
  suites_eq := rfl
  discoverySuite_eq := rfl
  suite_eq := rfl
  active_eq := rfl
  capability_congr first second same := by
    simp only [notifyGate, declaredCapability, expectations?, same]
  probe_protocol := rfl
  probe_hooks := rfl
  probe_message := rfl
  probe_parameters := rfl
  probe_invalidSlot := rfl
  probe_precondition := rfl
  probe_delayed := rfl
  message_ne := by decide
  early_within := early_within
  late_within := late_within
  between_within := by
    simp only [List.forall_mem_cons, List.not_mem_nil, false_implies, implies_true, and_true]
    exact ⟨domainCases_within, stateCases_within⟩
  gated_within := notifyCases_within

end Power

/-- Both plans are governed by their gates: the optional command is sent only after the platform has
answered with success that it implements the command, and its suite runs exactly if it did so and
what was declared does not contradict it. -/
theorem plans_governedBy_gates :
    (Base.plan.GovernedBy.{w} Base.agentGate ∧
      ∀ fixture answer,
        Base.agentGate.Opens (Base.plan.context fixture) answer ↔
          ∃ response, answer = .ok response ∧ response.status = Status.success.code ∧
            ∀ expectations, fixture = some (.base expectations) →
              (expectations.declared = Capability.allCommands ∨
                expectations.declared &&& Capability.commandBit Base.discoverAgent ≠ 0) →
              expectations.supported &&& Capability.commandBit Base.discoverAgent ≠ 0) ∧
    (Power.plan.GovernedBy.{w} Power.notifyGate ∧
      ∀ fixture answer,
        Power.notifyGate.Opens (Power.plan.context fixture) answer ↔
          ∃ response, answer = .ok response ∧ response.status = Status.success.code ∧
            ∀ expectations, fixture = some (.power expectations) →
              (expectations.declared = Capability.allCommands ∨
                expectations.declared &&& Capability.commandBit Power.stateNotify ≠ 0) →
              expectations.supported &&& Capability.commandBit Power.stateNotify ≠ 0) :=
  ⟨⟨Base.agentGating.governed, Base.agentGate_opens_iff⟩,
    ⟨Power.notifyGating.governed, Power.notifyGate_opens_iff⟩⟩

end PlatformAudit
