import PlatformAudit.Session.Session
import PlatformAudit.Proofs.Audit.SelfConformance
import PlatformAudit.Proofs.Audit.Stages

/-!
# Dispatch

Which plans an audit runs.  It does not begin without a base plan, nor if a protocol is asked for
that has no plan; a session that is refused so has not asked or written anything.  Otherwise every
plan that is asked for is either run and reported, or reported as not implemented, depending on the
list of protocols that the base plan has brought.
-/

universe u w

namespace PlatformAudit

open Dialogue

namespace Agent

/-- The protocols besides base that have a plan and are asked for, in ascending order. -/
def asked (agent : Agent) (selection : List UInt8) : List UInt8 :=
  agent.plans.ids.filter (isFollowing selection)

theorem mem_asked_iff (agent : Agent) (selection : List UInt8) (protocol : UInt8) :
    protocol ∈ agent.asked selection ↔
      protocol ∈ agent.plans.ids ∧ protocol ≠ Protocol.base ∧
        (selection = [] ∨ protocol ∈ selection) := by
  simp [asked, isFollowing, selects]

theorem asked_ascending (agent : Agent) (selection : List UInt8) :
    (agent.asked selection).Pairwise (· < ·) :=
  agent.plans.ids_ascending.filter _

section Refusals

variable {agent : Agent} {selection : List UInt8} {transport : String} {base : Plan}

private theorem opening_of_base (found : agent.plans.get? Protocol.base = some base) :
    agent.opening selection =
      match selection.find? fun protocol => !agent.plans.contains protocol with
      | some unknown => .error (.unknownProtocol unknown)
      | none => .ok base := by
  cases unknown : selection.find? fun protocol => !agent.plans.contains protocol <;>
    simp only [opening, found, unknown]

theorem opening_eq_missingBase_iff :
    agent.opening selection = .error .missingBase ↔ Protocol.base ∉ agent.plans.ids := by
  rw [ProtocolMap.mem_ids_iff, ProtocolMap.contains]
  cases found : agent.plans.get? Protocol.base with
  | none => simp [opening, found]
  | some base =>
      rw [opening_of_base found]
      split <;> simp

/-- The first protocol without a plan is the one that is told of. -/
theorem opening_eq_unknownProtocol_iff (unknown : UInt8) :
    agent.opening selection = .error (.unknownProtocol unknown) ↔
      Protocol.base ∈ agent.plans.ids ∧
        ∃ before behind, selection = before ++ unknown :: behind ∧
          (∀ protocol ∈ before, protocol ∈ agent.plans.ids) ∧ unknown ∉ agent.plans.ids := by
  have first_iff :
      selection.find? (fun protocol => !agent.plans.contains protocol) = some unknown ↔
        ∃ before behind, selection = before ++ unknown :: behind ∧
          (∀ protocol ∈ before, protocol ∈ agent.plans.ids) ∧ unknown ∉ agent.plans.ids := by
    rw [List.find?_eq_some_iff_append]
    simp only [ProtocolMap.mem_ids_iff, Bool.not_eq_true', Bool.not_not, Bool.not_eq_true]
    constructor
    · rintro ⟨missing, before, behind, split, known⟩
      exact ⟨before, behind, split, known, missing⟩
    · rintro ⟨before, behind, split, known, missing⟩
      exact ⟨missing, before, behind, split, known⟩
  rw [← first_iff, ProtocolMap.mem_ids_iff, ProtocolMap.contains]
  cases found : agent.plans.get? Protocol.base with
  | none => simp [opening, found]
  | some base =>
      rw [opening_of_base found]
      split <;> rename_i first <;> simp [first]

theorem exists_opening_eq_ok_iff :
    (∃ base, agent.opening selection = .ok base) ↔
      Protocol.base ∈ agent.plans.ids ∧ ∀ protocol ∈ selection, protocol ∈ agent.plans.ids := by
  have noneMissing_iff :
      selection.find? (fun protocol => !agent.plans.contains protocol) = none ↔
        ∀ protocol ∈ selection, protocol ∈ agent.plans.ids := by
    simp [ProtocolMap.mem_ids_iff]
  rw [← noneMissing_iff, ProtocolMap.mem_ids_iff, ProtocolMap.contains]
  cases found : agent.plans.get? Protocol.base with
  | none => simp [opening, found]
  | some base =>
      rw [opening_of_base found]
      split <;> rename_i first <;> simp [first]

theorem run_eq_error_iff (cause : RegistryError) :
    agent.run selection transport = .error cause ↔ agent.opening selection = .error cause := by
  cases opened : agent.opening selection <;> simp [run, opened, Except.map]

theorem exists_run_eq_ok_iff :
    (∃ dialogue, agent.run selection transport = .ok dialogue) ↔
      Protocol.base ∈ agent.plans.ids ∧ ∀ protocol ∈ selection, protocol ∈ agent.plans.ids := by
  rw [← exists_opening_eq_ok_iff]
  cases opened : agent.opening selection <;> simp [run, opened, Except.map]

end Refusals

section Conducting

variable {σ : Type w} {agent : Agent} {selection : List UInt8} {transport : String}
  (respond : Responder σ) (state : σ) (journal : Journal)

/-- An audit that is refused asks for nothing, writes nothing and takes no token. -/
theorem conduct_of_refused {cause : RegistryError}
    (refused : agent.run selection transport = .error cause) (token : UInt16) :
    (agent.conduct selection transport token).transcript respond state = [] ∧
      (agent.conduct selection transport token).run respond state journal =
        { value := (.error cause, token), state, journal } := by
  rw [conduct, (run_eq_error_iff cause).mp refused]
  exact ⟨rfl, rfl⟩

/-- An audit that begins is conducted as such, from the first token on. -/
theorem conduct_of_begun {dialogue : Dialogue RunReport}
    (begun : agent.run selection transport = .ok dialogue) :
    (agent.conduct selection transport 0).transcript respond state =
        dialogue.transcript respond state ∧
      ∃ token, (agent.conduct selection transport 0).run respond state journal =
        let outcome := dialogue.run respond state journal
        { value := (.ok outcome.value, token), state := outcome.state
          journal := outcome.journal } := by
  cases opened : agent.opening selection with
  | error cause =>
      rw [(run_eq_error_iff cause).mpr opened] at begun
      cases begun
  | ok base =>
      rw [run, opened] at begun
      obtain rfl := Except.ok.inj begun
      rw [conduct, opened]
      simp only [audit, transcript_bind_done, run_bind_done]
      exact ⟨trivial, _, rfl⟩

end Conducting

/-- A session whose audit is refused has played nothing, and has written nothing. -/
theorem run_of_refused {ρ : Type u} {settings : Settings} {tree : FileTree}
    {platform : PlatformConfig} (react : Reaction ρ) (remote : ρ) {endpoint : Endpoint}
    {journal : Journal} {cause : RegistryError}
    (connected : Endpoint.connect settings tree platform = .ok endpoint)
    (opened : settings.openJournal tree = .ok journal)
    (refused : (standard (settings.fixtures platform)).run settings.protocols endpoint.name =
      .error cause) :
    settings.run tree platform react remote =
      { result := .error (.registry cause), journal := some journal } := by
  have played :
      endpoint.play settings.waitLimitMs react remote
          ((standard (settings.fixtures platform)).conduct settings.protocols endpoint.name 0)
          journal =
        ((.error cause, 0), journal) := by
    rw [conduct, (run_eq_error_iff cause).mp refused]
    cases endpoint <;> rfl
  simp only [Settings.run, connected, opened, played]
  rfl

/-- How an audit that begins goes about the plans: the base plan first, then those that are asked
for. -/
structure Dispatches {σ : Type w} (agent : Agent) (respond : Responder σ) (base : Plan)
    (selection : List UInt8) (state : σ) (exchanges : List Exchange) (report : RunReport) :
    Prop where
  /-- Reports come from running plans. -/
  reports :
    exchanges = (agent.stages respond base selection state).flatMap
        (Stage.exchanges respond agent) ∧
      report.protocols =
        (agent.stages respond base selection state).map (Stage.report respond agent)
  /-- Base is reported first, and behind it what was listed of what is asked for. -/
  protocols :
    report.protocols.map (·.protocol) =
      Protocol.base :: (agent.asked selection).filter fun protocol =>
        protocol.toUInt32 ∈ (Stage.first base state).listed respond agent
  notImplemented :
    report.notImplemented =
      (agent.asked selection).filter fun protocol =>
        protocol.toUInt32 ∉ (Stage.first base state).listed respond agent
  /-- Whatever is asked for is in one of both, and nothing is in both or twice in one. -/
  partition :
    (report.protocols.map (·.protocol) ++ report.notImplemented).Perm
        (Protocol.base :: agent.asked selection) ∧
      (report.protocols.map (·.protocol) ++ report.notImplemented).Nodup
  /-- Commands go to protocols that are reported. -/
  commands :
    ∀ header ∈ headersOf exchanges, header.protocol ∈ report.protocols.map (·.protocol)

section

variable {σ : Type w} (respond : Responder σ) {agent : Agent} {base : Plan}

/-- What is listed among the plans that follow is what is listed of what is asked for. -/
private theorem protocols_filter (built : agent.plans.Built) (selection : List UInt8)
    (keep : UInt8 → Bool) :
    ((agent.following selection).filter fun plan => keep plan.protocol).map (·.protocol) =
      (agent.asked selection).filter keep := by
  rw [asked, ← protocols_following built, List.filter_map]
  rfl

theorem asked_nodup (agent : Agent) (selection : List UInt8) :
    (Protocol.base :: agent.asked selection).Nodup := by
  refine List.nodup_cons.mpr ⟨fun among => ?_, ?_⟩
  · exact ((agent.mem_asked_iff selection _).mp among).2.1 rfl
  · exact (agent.asked_ascending selection).imp UInt8.ne_of_lt

theorem audit_dispatches (built : agent.plans.Built)
    (found : agent.plans.get? Protocol.base = some base) (selection : List UInt8)
    (transport : String) (state : σ) :
    (agent.audit base selection transport).Leads respond state
      fun exchanges report _ =>
        agent.Dispatches respond base selection state exchanges report := by
  have own : base.protocol = Protocol.base := (built.sound found).1
  apply (agent.audit_stages respond own selection transport state).mono
  rintro _ report _ ⟨rfl, reports, notImplemented⟩
  let listed := (Stage.first base state).listed respond agent
  have ofStages :
      report.protocols.map (·.protocol) =
        ((agent.stages respond base selection state).map (·.plan)).map (·.protocol) := by
    rw [reports, List.map_map, List.map_map]
    exact List.map_congr_left fun stage _ => stage.protocol_report respond agent
  have protocols :
      report.protocols.map (·.protocol) =
        Protocol.base ::
          (agent.asked selection).filter fun protocol => protocol.toUInt32 ∈ listed := by
    rw [ofStages, plans_stages, List.map_cons, own]
    simp only [List.contains_eq_mem]
    exact congrArg (Protocol.base :: ·)
      (protocols_filter built selection fun protocol => protocol.toUInt32 ∈ listed)
  have others :
      report.notImplemented =
        (agent.asked selection).filter fun protocol => protocol.toUInt32 ∉ listed := by
    rw [notImplemented]
    simp only [List.contains_eq_mem, decide_not]
    exact protocols_filter built selection fun protocol => !decide (protocol.toUInt32 ∈ listed)
  have partition :
      (report.protocols.map (·.protocol) ++ report.notImplemented).Perm
        (Protocol.base :: agent.asked selection) := by
    rw [protocols, others]
    simp only [decide_not, List.cons_append]
    exact (List.filter_append_perm _ _).cons _
  refine
    { reports := ⟨rfl, reports⟩
      protocols := protocols
      notImplemented := others
      partition := ⟨partition, partition.nodup_iff.mpr (agent.asked_nodup selection)⟩
      commands := ?_ }
  intro header member
  rw [headersOf_flatMap] at member
  obtain ⟨stage, among, sent⟩ := List.mem_flatMap.mp member
  have registered := registered_of_mem_stages respond built found among
  rw [(stage.issues respond built registered).protocol_eq header sent, ofStages, List.map_map]
  exact List.mem_map_of_mem among

end

/-- How an audit comes to the plans that it runs.  It is refused if there is no base plan, or else
because of the first protocol that is asked for and has no plan.  Then nothing is asked or written,
and no token is taken.  Otherwise it runs the base plan, and of the plans that are asked for those
that the platform has listed. -/
theorem run_dispatches {agent : Agent} (built : agent.plans.Built) (selection : List UInt8)
    (transport : String) :
    (agent.run selection transport = .error .missingBase ↔ Protocol.base ∉ agent.plans.ids) ∧
      (∀ unknown, agent.run selection transport = .error (.unknownProtocol unknown) ↔
        Protocol.base ∈ agent.plans.ids ∧
          ∃ before behind, selection = before ++ unknown :: behind ∧
            (∀ protocol ∈ before, protocol ∈ agent.plans.ids) ∧ unknown ∉ agent.plans.ids) ∧
      (∀ cause, agent.run selection transport = .error cause →
        ∀ {σ : Type w} (respond : Responder σ) (state : σ) (journal : Journal) (token : UInt16),
          (agent.conduct selection transport token).transcript respond state = [] ∧
            (agent.conduct selection transport token).run respond state journal =
              { value := (.error cause, token), state, journal }) ∧
      (∀ {ρ : Type u} (settings : Settings) (tree : FileTree) (platform : PlatformConfig)
          (react : Reaction ρ) (remote : ρ) (endpoint : Endpoint) (journal : Journal)
          (cause : RegistryError),
        Endpoint.connect settings tree platform = .ok endpoint →
        settings.openJournal tree = .ok journal →
        (standard (settings.fixtures platform)).run settings.protocols endpoint.name =
            .error cause →
          settings.run tree platform react remote =
            { result := .error (.registry cause), journal := some journal }) ∧
      ((∃ dialogue, agent.run selection transport = .ok dialogue) ↔
        Protocol.base ∈ agent.plans.ids ∧
          ∀ protocol ∈ selection, protocol ∈ agent.plans.ids) ∧
      (agent.asked selection).Pairwise (· < ·) ∧
      (∀ protocol, protocol ∈ agent.asked selection ↔
        protocol ∈ agent.plans.ids ∧ protocol ≠ Protocol.base ∧
          (selection = [] ∨ protocol ∈ selection)) ∧
      ∀ dialogue, agent.run selection transport = .ok dialogue →
        ∃ base, agent.plans.get? Protocol.base = some base ∧
          ∀ {σ : Type w} (respond : Responder σ) (state : σ) (journal : Journal),
            agent.Dispatches respond base selection state (dialogue.transcript respond state)
                (dialogue.run respond state journal).value ∧
              (agent.conduct selection transport 0).transcript respond state =
                dialogue.transcript respond state ∧
              ∃ token, (agent.conduct selection transport 0).run respond state journal =
                let outcome := dialogue.run respond state journal
                { value := (.ok outcome.value, token), state := outcome.state
                  journal := outcome.journal } := by
  refine ⟨?_, fun unknown => ?_, ?_, ?_, exists_run_eq_ok_iff, agent.asked_ascending selection,
    agent.mem_asked_iff selection, ?_⟩
  · rw [run_eq_error_iff, opening_eq_missingBase_iff]
  · rw [run_eq_error_iff, opening_eq_unknownProtocol_iff]
  · intro cause refused σ respond state journal token
    exact conduct_of_refused respond state journal refused token
  · intro ρ settings tree platform react remote endpoint journal cause connected opened refused
    exact run_of_refused react remote connected opened refused
  · intro dialogue begun
    obtain ⟨base, found, same⟩ := run_eq_ok begun
    refine ⟨base, found, fun respond state journal => ⟨?_, ?_⟩⟩
    · rw [same]
      exact (leads_iff _ _ journal _).mp
        (audit_dispatches respond built found selection transport state)
    · exact conduct_of_begun respond state journal begun

theorem listed_of_cleanly {σ : Type w} {respond : Responder σ} (agent : Agent) {base : Plan}
    {listed : List UInt32} {state middle : σ}
    (clean : Cleanly respond (PlanRun.runSuites base base.suites 0) SuiteReport.AllClean
      ((base.context (agent.fixtures.get? base.protocol)).standing.At state)
      fun standing last => standing.discovered.list Entity.protocols = listed ∧ last = middle) :
    (Stage.first base state).listed respond agent = listed :=
  ((Stage.first base state).of_leads respond agent (Cleanly.run 0 clean)).2.2.1

def vendorPlan : Plan where
  protocol := 0x80
  name := "Vendor"
  suites := []

def withVendor : Agent where
  plans := Registry.standard.insert vendorPlan.protocol vendorPlan
  fixtures := .ofPlatform .telling

/-- A platform that lists the power protocol has the power plan run, and no plan besides.  A
protocol that has no plan is refused before. -/
theorem run_on_telling_dispatches :
    withVendor.run [Protocol.power, 7] "mock" = .error (.unknownProtocol 7) ∧
      ((withVendor.conduct [Protocol.power, 7] "mock" 5).run Switchboard.link.answer
          PlatformConfig.telling.switchboard { sink := .nowhere }).value =
        (.error (.unknownProtocol 7), 5) ∧
      ∃ dialogue, withVendor.run [] "mock" = .ok dialogue ∧
        let report := (dialogue.run Switchboard.link.answer PlatformConfig.telling.switchboard
          { sink := .nowhere }).value
        report.protocols.map (·.protocol) = [Protocol.base, Protocol.power] ∧
          report.notImplemented = [vendorPlan.protocol] := by
  have fresh : Registry.standard.contains vendorPlan.protocol = false := rfl
  have plans : withVendor.plans.Built := Registry.built_standard.insert fresh rfl
  have refused : withVendor.run [Protocol.power, 7] "mock" = .error (.unknownProtocol 7) :=
    ((run_dispatches.{0, 0} plans [Protocol.power, 7] "mock").2.1 7).mpr
      ⟨by decide, [Protocol.power], [], rfl, List.forall_mem_singleton.mpr (by decide), by decide⟩
  have untouched := ((run_dispatches.{0, 0} plans [Protocol.power, 7] "mock").2.2.1 _ refused
    Switchboard.link.answer PlatformConfig.telling.switchboard { sink := .nowhere } 5).2
  have begun : withVendor.run [] "mock" = .ok (withVendor.audit Base.plan [] "mock") := rfl
  refine ⟨refused, congrArg Outcome.value untouched, _, begun, ?_⟩
  intro report
  obtain ⟨base, found, dispatches⟩ :=
    (run_dispatches.{0, 0} plans [] "mock").2.2.2.2.2.2.2 _ begun
  obtain rfl : Base.plan = base := Option.some.inj found
  have told := (dispatches Switchboard.link.answer PlatformConfig.telling.switchboard
    { sink := .nowhere }).1
  have clean := PlatformConfig.baseSuites_clean PlatformConfig.telling_wellFormed
  have listed :
      (Stage.first Base.plan PlatformConfig.telling.switchboard).listed Switchboard.link.answer
        withVendor = PlatformConfig.telling.base.protocols.map (·.toUInt32) :=
    withVendor.listed_of_cleanly clean
  have asked : withVendor.asked [] = [Protocol.power, vendorPlan.protocol] := by decide
  have protocols := told.protocols
  have notImplemented := told.notImplemented
  rw [listed, asked] at protocols notImplemented
  have isListed :
      Protocol.power.toUInt32 ∈ PlatformConfig.telling.base.protocols.map (·.toUInt32) := by
    decide
  have isNotListed :
      vendorPlan.protocol.toUInt32 ∉ PlatformConfig.telling.base.protocols.map (·.toUInt32) := by
    decide
  simp only [List.filter_cons, isListed, isNotListed, List.filter_nil] at protocols notImplemented
  exact ⟨protocols, notImplemented⟩

end Agent

end PlatformAudit
