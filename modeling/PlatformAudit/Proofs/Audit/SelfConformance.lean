import PlatformAudit.Proofs.Audit.Verdicts
import PlatformAudit.Proofs.Protocol.BaseConformance
import PlatformAudit.Proofs.Protocol.PowerConformance

/-!
# Platforms pass their own audit

An agent that expects of a configured platform what it was configured to be finds neither a failure
nor an error, whatever the configuration is, as long as it can be told over the wire.  It runs the
power plan if and only if the platform lists the power protocol.
-/

universe w

namespace PlatformAudit

open Dialogue

/-- A configuration that can be told to an agent.  A power protocol that is not listed is never
asked, so only a listed one has to be there. -/
structure PlatformConfig.WellFormed (config : PlatformConfig) : Prop where
  base : config.base.WellFormed
  power : Protocol.power ∈ config.base.protocols →
    ∃ power, config.power = some power ∧ power.WellFormed

namespace Fixtures

theorem ofPlatform_base (config : PlatformConfig) :
    (ofPlatform config).get? Protocol.base = some (.base (.ofConfig config.base)) := by
  unfold ofPlatform
  cases config.power <;> rfl

theorem ofPlatform_power {config : PlatformConfig} {power : Power.Config}
    (has : config.power = some power) :
    (ofPlatform config).get? Protocol.power = some (.power (.ofConfig power)) := by
  unfold ofPlatform
  rw [has]
  rfl

end Fixtures

theorem contains_toUInt32 (identifiers : List UInt8) (identifier : UInt8) :
    (identifiers.map (·.toUInt32)).contains identifier.toUInt32 = true ↔
      identifier ∈ identifiers := by
  rw [List.contains_iff_mem, List.mem_map]
  constructor
  · rintro ⟨other, member, same⟩
    have equality : other = identifier :=
      UInt8.toNat_inj.mp (congrArg UInt32.toNat same)
    exact equality ▸ member
  · exact fun member => ⟨identifier, member, rfl⟩

namespace Agent

section Clean

variable {σ : Type w} {respond : Responder σ} {agent : Agent} {base plan : Plan}
  {selection : List UInt8} {listed : List UInt32} {state middle : σ}

private theorem runFollowing_listed {progress : Progress}
    {after : Standing → σ → Prop} (contains : listed.contains plan.protocol.toUInt32 = true)
    (suites : Cleanly respond (PlanRun.runSuites plan plan.suites 0) SuiteReport.AllClean
      ((plan.context (agent.fixtures.get? plan.protocol)).standing.At state) after) :
    (agent.runFollowing listed [plan] progress).Leads respond state
      fun _ result _ => ∃ added : ProtocolReport,
        added.protocol = plan.protocol ∧ added.IsClean ∧
          result.report = progress.report.push added := by
  rw [runFollowing, if_pos contains, leads_bind]
  apply (Cleanly.run progress.token suites).mono
  intro _ result last ran
  exact ⟨result.1, ran.1, ran.2.1, rfl⟩

private theorem runFollowing_unlisted {progress : Progress}
    (lacks : ¬listed.contains plan.protocol.toUInt32 = true) :
    (agent.runFollowing listed [plan] progress).Leads respond state
      fun _ result _ => result.report = progress.report.pushNotImplemented plan.protocol := by
  rw [runFollowing, if_neg lacks, leads_say]
  rfl

section TwoPlans

variable {after : Standing → σ → Prop} (transport : String)
  (following : agent.following selection = [plan])
  (first : Cleanly respond (PlanRun.runSuites base base.suites 0) SuiteReport.AllClean
    ((base.context (agent.fixtures.get? Protocol.base)).standing.At state)
    fun standing last => standing.discovered.list Entity.protocols = listed ∧ last = middle)
  (second : listed.contains plan.protocol.toUInt32 = true →
    Cleanly respond (PlanRun.runSuites plan plan.suites 0) SuiteReport.AllClean
      ((plan.context (agent.fixtures.get? plan.protocol)).standing.At middle) after)

include following first second

/-- An audit by two plans is clean if both are, and runs the second one if its protocol is listed
by the first one. -/
theorem audit_clean :
    (agent.audit base selection transport).Leads respond state
      fun _ report _ =>
        (∀ protocol ∈ report.protocols, protocol.IsClean) ∧
        (listed.contains plan.protocol.toUInt32 = true →
          report.protocols.map (·.protocol) = [base.protocol, plan.protocol] ∧
            report.notImplemented = []) ∧
        (¬listed.contains plan.protocol.toUInt32 = true →
          report.protocols.map (·.protocol) = [base.protocol] ∧
            report.notImplemented = [plan.protocol]) := by
  rw [leads_audit, auditFrom, leads_bind]
  apply (Cleanly.run 0 first).mono
  intro _ result last ran
  obtain ⟨protocol, clean, found, rfl⟩ := ran
  have listing : result.2.context.discovered.list Entity.protocols = listed := found
  rw [leads_bind, listing, following]
  by_cases contains : listed.contains plan.protocol.toUInt32 = true
  · apply (runFollowing_listed contains (second contains)).mono
    intro _ progress _ ranSecond
    obtain ⟨added, addedProtocol, addedClean, same⟩ := ranSecond
    rw [leads_say, leads_done, same]
    refine ⟨?_, fun _ => ⟨?_, rfl⟩, fun lacks => absurd contains lacks⟩
    · simpa [RunReport.push] using ⟨clean, addedClean⟩
    · simp [RunReport.push, protocol, addedProtocol]
  · apply (runFollowing_unlisted contains).mono
    intro _ progress _ same
    rw [leads_say, leads_done, same]
    refine ⟨?_, fun listed => absurd listed contains, fun _ => ⟨?_, rfl⟩⟩
    · simpa [RunReport.push, RunReport.pushNotImplemented] using clean
    · simp [RunReport.push, RunReport.pushNotImplemented, protocol]

/-- An audit that is clean as it goes is clean when it is done. -/
theorem audit_totals (journal : Journal) :
    let report := ((agent.audit base selection transport).run respond state journal).value
    let ran := (base.run (agent.fixtures.get? Protocol.base) 0).run respond state journal
    report.totals.failures = 0 ∧ report.totals.errors = 0 ∧
      ran.value.2.context.discovered.list Entity.protocols = listed ∧
      (listed.contains plan.protocol.toUInt32 = true →
        report.protocols.map (·.protocol) = [base.protocol, plan.protocol] ∧
          report.notImplemented = []) ∧
      (¬listed.contains plan.protocol.toUInt32 = true →
        report.protocols.map (·.protocol) = [base.protocol] ∧
          report.notImplemented = [plan.protocol]) := by
  intro report ran
  have recorded : report.Recorded :=
    (leads_iff _ _ journal _).mp (agent.audit_recorded base selection transport state)
  obtain ⟨clean, reported⟩ :=
    (leads_iff _ _ journal _).mp (audit_clean transport following first second)
  have found := (leads_iff _ _ journal _).mp (Cleanly.run 0 first)
  have isClean : report.isClean = true :=
    recorded.isClean_iff.mpr (RunReport.checksClean_of_forall clean)
  obtain ⟨noFailure, noError⟩ := (Tally.isClean_iff _).mp isClean
  exact ⟨noFailure, noError, found.2.2.1, reported⟩

end TwoPlans

end Clean

end Agent

namespace PlatformConfig

variable {config : PlatformConfig}

/-- The agent that expects of a platform what it was configured to be. -/
def agent (config : PlatformConfig) : Agent :=
  .standard (.ofPlatform config)

/-- The base plan finds nothing wrong, and finds the protocols that are listed. -/
theorem baseSuites_clean (wellFormed : config.WellFormed) :
    Cleanly Switchboard.link.answer (PlanRun.runSuites Base.plan Base.plan.suites 0)
      SuiteReport.AllClean
      ((Base.plan.context (config.agent.fixtures.get? Protocol.base)).standing.At
        config.switchboard)
      fun standing last =>
        standing.discovered.list Entity.protocols = config.base.protocols.map (·.toUInt32) ∧
          last = runningPlatform config.base (config.power.map .start) {} := by
  have fixture : config.agent.fixtures.get? Protocol.base =
      some (.base (.ofConfig config.base)) := Fixtures.ofPlatform_base config
  rw [fixture, config.switchboard_eq]
  exact Base.suites_clean _ wellFormed.base

theorem powerSuites_clean (wellFormed : config.WellFormed)
    (listed : Protocol.power ∈ config.base.protocols) :
    Cleanly Switchboard.link.answer (PlanRun.runSuites Power.plan Power.plan.suites 0)
      SuiteReport.AllClean
      ((Power.plan.context (config.agent.fixtures.get? Protocol.power)).standing.At
        (runningPlatform config.base (config.power.map .start) {}))
      fun _ _ => True := by
  obtain ⟨power, has, powerWellFormed⟩ := wellFormed.power listed
  have fixture : config.agent.fixtures.get? Protocol.power = some (.power (.ofConfig power)) :=
    Fixtures.ofPlatform_power has
  rw [fixture, has, Option.map_some]
  exact (Power.suites_clean config.base powerWellFormed (Power.Service.start_runs power)).weaken
    fun _ _ _ => trivial

/-- A platform that is configured sensibly passes the audit of an agent that expects of it what it
was configured to be.  The base plan finds the protocols in the order in which they are listed, and
the power plan is run if its protocol is among them. -/
theorem passes_audit (wellFormed : config.WellFormed) (transport : String) :
    config.agent.run [] transport = .ok (config.agent.audit Base.plan [] transport) ∧
      ∀ journal : Journal,
        let report := ((config.agent.audit Base.plan [] transport).run Switchboard.link.answer
          config.switchboard journal).value
        let base := (Base.plan.run (config.agent.fixtures.get? Protocol.base) 0).run
          Switchboard.link.answer config.switchboard journal
        report.totals.failures = 0 ∧ report.totals.errors = 0 ∧
          base.value.2.context.discovered.list Entity.protocols =
            config.base.protocols.map (·.toUInt32) ∧
          (Protocol.power ∈ config.base.protocols →
            report.protocols.map (·.protocol) = [Protocol.base, Protocol.power] ∧
              report.notImplemented = []) ∧
          (Protocol.power ∉ config.base.protocols →
            report.protocols.map (·.protocol) = [Protocol.base] ∧
              report.notImplemented = [Protocol.power]) := by
  have contains_iff : (config.base.protocols.map (·.toUInt32)).contains
      Power.plan.protocol.toUInt32 = true ↔ Protocol.power ∈ config.base.protocols :=
    contains_toUInt32 _ _
  have following : config.agent.following [] = [Power.plan] := rfl
  have base := config.baseSuites_clean wellFormed
  have totals := Agent.audit_totals transport following base fun contains =>
    powerSuites_clean wellFormed (contains_iff.mp contains)
  rw [contains_iff] at totals
  exact ⟨rfl, totals⟩

/-- The stock platform, but it lists one protocol at a time and tells about changes. -/
def telling : PlatformConfig where
  base := { pageSize := 0 }
  power := some { stateNotify := true }

theorem telling_wellFormed : telling.WellFormed where
  base :=
    { vendor := by decide
      subVendor := by decide
      agentNames := fun _ => by decide
      protocols_nodup := by decide
      base_not_mem := by decide
      agents_length := by decide }
  power _ := by
    refine ⟨_, rfl, ?_⟩
    exact
      { two_le := by decide
        domains_length := by decide
        names := by decide
        watched := by
          intro _ domain first
          cases first
          rfl }

theorem telling_passes_audit :
    ((telling.agent.audit Base.plan [] "mock").run Switchboard.link.answer telling.switchboard
        { sink := .nowhere }).value.totals.failures = 0 ∧
      ((telling.agent.audit Base.plan [] "mock").run Switchboard.link.answer telling.switchboard
        { sink := .nowhere }).value.protocols.map (·.protocol) =
          [Protocol.base, Protocol.power] := by
  have passes := (passes_audit telling_wellFormed "mock").2 { sink := .nowhere }
  exact ⟨passes.1, (passes.2.2.2.1 (by decide)).1⟩

end PlatformConfig

end PlatformAudit
