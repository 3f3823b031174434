import PlatformAudit.Audit.Agent
import PlatformAudit.CommandLine.Execution
import PlatformAudit.Proofs.Audit.PlanLogic
import PlatformAudit.Proofs.Report.RollUp

/-!
# Verdicts of a run

Whatever a platform answers, the report on a run is a recorded one.  So nothing that a check has
found is lost on the way up, and the exit code tells whether there was a failure or an error.
-/

universe w

namespace PlatformAudit

open Dialogue

variable {σ : Type w} {respond : Responder σ}

namespace PlanRun

variable {carried : PlanState} {state : σ}

theorem runCase_isFinished (plan : Plan) (case : Case) (carried : PlanState) (state : σ) :
    Carries respond (runCase plan case) carried state
      fun _ report _ _ => report.IsFinished := by
  cases obstacle : obstacle? case carried.context with
  | some reason =>
      rw [carries_runCase_of_obstacle plan obstacle]
      exact CaseReport.finish_isFinished _
  | none =>
      rw [carries_runCase plan obstacle]
      exact carries_of_forall fun _ _ _ _ => CaseReport.finish_isFinished _

theorem runCases_isFinished (plan : Plan) (cases : List Case) (position : Nat)
    (carried : PlanState) (state : σ) :
    Carries respond (runCases plan cases position) carried state
      fun _ reports _ _ => ∀ report ∈ reports, report.IsFinished := by
  induction cases generalizing position carried state with
  | nil => simp
  | cons case rest induction =>
      rw [carries_runCases_cons]
      apply (runCase_isFinished plan case _ state).mono
      intro _ report between middle finished
      apply (induction (position + 1) between middle).mono
      intro _ reports _ _ others
      exact List.forall_mem_cons.mpr ⟨finished, others⟩

theorem runSuite_recorded (plan : Plan) (suite : Suite) (position : Nat) (carried : PlanState)
    (state : σ) :
    Carries respond (runSuite plan suite position) carried state
      fun _ report _ _ => report.Recorded := by
  cases runs : (carried.context.enterSuite position).mustRun position with
  | true =>
      rw [carries_runSuite plan suite runs]
      apply (runCases_isFinished plan suite.active 0 _ state).mono
      intro _ _ _ _ finished
      exact .ran suite.name finished
  | false =>
      rw [carries_runSuite_of_skipped plan suite runs]
      exact .skipped suite.name

theorem runSuites_recorded (plan : Plan) (suites : List Suite) (position : Nat)
    (carried : PlanState) (state : σ) :
    Carries respond (runSuites plan suites position) carried state
      fun _ reports _ _ => ∀ report ∈ reports, report.Recorded := by
  induction suites generalizing position carried state with
  | nil => simp
  | cons suite rest induction =>
      rw [carries_runSuites_cons]
      apply (runSuite_recorded plan suite position _ state).mono
      intro _ report between middle recorded
      apply (induction (position + 1) between middle).mono
      intro _ reports _ _ others
      exact List.forall_mem_cons.mpr ⟨recorded, others⟩

end PlanRun

theorem Plan.run_recorded (plan : Plan) (fixture : Option Fixture) (token : UInt16) (state : σ) :
    (plan.runFrom fixture token).Leads respond state fun _ result _ => result.1.Recorded := by
  rw [Plan.leads_run]
  apply (PlanRun.runSuites_recorded plan plan.suites 0 _ state).mono
  intro _ reports _ _ recorded
  exact .ofSuites plan.name plan.protocol recorded

namespace Agent

theorem runFollowing_recorded (agent : Agent) (listed : List UInt32) (plans : List Plan)
    {progress : Progress} (state : σ) (recorded : progress.report.Recorded) :
    (agent.runFollowing listed plans progress).Leads respond state
      fun _ result _ => result.report.Recorded := by
  induction plans generalizing progress state with
  | nil => exact recorded
  | cons plan rest induction =>
      unfold runFollowing
      split
      · rw [leads_bind]
        apply (plan.run_recorded _ _ state).mono
        intro _ result middle added
        exact induction middle (.push recorded added)
      · exact induction state (.pushNotImplemented plan.protocol recorded)

theorem auditFrom_recorded (agent : Agent) (base : Plan) (selection : List UInt8)
    (transport : String) (token : UInt16) (state : σ) :
    (agent.auditFrom base selection transport token).Leads respond state
      fun _ progress _ => progress.report.Recorded := by
  unfold auditFrom
  rw [leads_bind]
  apply (base.run_recorded _ _ state).mono
  intro _ result middle added
  rw [leads_bind]
  apply (agent.runFollowing_recorded _ _ middle (.push (.start transport) added)).mono
  intro _ progress _ recorded
  exact recorded

theorem leads_audit (agent : Agent) (base : Plan) (selection : List UInt8) (transport : String)
    (state : σ) (goal : List Exchange → RunReport → σ → Prop) :
    (agent.audit base selection transport).Leads respond state goal ↔
      (agent.auditFrom base selection transport 0).Leads respond state
        fun exchanges progress final => goal exchanges progress.report final := by
  simp only [audit, leads_bind, leads_done, List.append_nil]

theorem audit_recorded (agent : Agent) (base : Plan) (selection : List UInt8)
    (transport : String) (state : σ) :
    (agent.audit base selection transport).Leads respond state
      fun _ report _ => report.Recorded := by
  rw [leads_audit]
  exact agent.auditFrom_recorded base selection transport 0 state

theorem opening_eq_ok {agent : Agent} {selection : List UInt8} {base : Plan}
    (opened : agent.opening selection = .ok base) :
    agent.plans.get? Protocol.base = some base := by
  unfold opening at opened
  split at opened
  · cases opened
  · rename_i registered found
    split at opened
    · cases opened
    · cases opened
      exact found

theorem run_eq_ok {agent : Agent} {selection : List UInt8} {transport : String}
    {dialogue : Dialogue RunReport} (begun : agent.run selection transport = .ok dialogue) :
    ∃ base, agent.plans.get? Protocol.base = some base ∧
      dialogue = agent.audit base selection transport := by
  unfold run at begun
  cases opened : agent.opening selection with
  | error cause =>
      rw [opened] at begun
      cases begun
  | ok base =>
      rw [opened] at begun
      exact ⟨base, opening_eq_ok opened, (Except.ok.inj begun).symm⟩

theorem run_recorded {agent : Agent} {selection : List UInt8} {transport : String}
    {dialogue : Dialogue RunReport} (begun : agent.run selection transport = .ok dialogue)
    (state : σ) (journal : Journal) :
    (dialogue.run respond state journal).value.Recorded := by
  obtain ⟨base, -, rfl⟩ := run_eq_ok begun
  exact (leads_iff _ _ journal _).mp (agent.audit_recorded base selection transport state)

/-- Nothing that a check has found is lost on the way to the verdicts, the totals and the exit
code. -/
theorem run_loses_no_verdict {agent : Agent} {selection : List UInt8} {transport : String}
    {dialogue : Dialogue RunReport} (begun : agent.run selection transport = .ok dialogue)
    (respond : Responder σ) (state : σ) (journal : Journal) :
    let report := (dialogue.run respond state journal).value
    (report.isClean = true ↔ report.ChecksClean) ∧
      (∀ arguments written,
        ((CommandLine.resultOf arguments { result := .ok report, journal := written }).exitCode = 0 ↔
          report.ChecksClean) ∧
        ((CommandLine.resultOf arguments { result := .ok report, journal := written }).exitCode = 1 ↔
          ¬report.ChecksClean)) ∧
      ∀ protocol ∈ report.protocols,
        protocol.verdict.Summarizes protocol.tally protocol.cases ∧
        (∀ suites, suites.Perm protocol.suites →
          (ProtocolReport.ofSuites protocol.name protocol.protocol suites).verdict =
              protocol.verdict ∧
            (ProtocolReport.ofSuites protocol.name protocol.protocol suites).tally =
              protocol.tally) ∧
        ∀ suite ∈ protocol.suites, suite.skipped = false →
          suite.verdict.Summarizes suite.tally suite.cases ∧
          ∀ cases, cases.Perm suite.cases →
            (SuiteReport.ofCases suite.name cases).verdict = suite.verdict ∧
              (SuiteReport.ofCases suite.name cases).tally = suite.tally := by
  intro report
  have recorded : report.Recorded := run_recorded begun state journal
  have exitCode : CommandLine.exitCode report = if report.isClean then 0 else 1 := rfl
  refine ⟨recorded.isClean_iff, fun arguments written => ?_, fun protocol member => ?_⟩
  · simp only [CommandLine.resultOf, exitCode, ← recorded.isClean_iff]
    cases report.isClean <;> simp
  · have ofProtocol := recorded.protocols_recorded protocol member
    refine ⟨ofProtocol.summarizes, fun suites permutation => ?_, fun suite inside ran => ?_⟩
    · have same := ProtocolReport.ofSuites_perm protocol.name protocol.protocol permutation
      rwa [← ofProtocol.eq_ofSuites] at same
    · have ofSuite := ofProtocol.suites_recorded suite inside
      refine ⟨ofSuite.summarizes ran, fun cases permutation => ?_⟩
      have same := SuiteReport.ofCases_perm suite.name permutation
      rwa [← ofSuite.eq_ofCases ran] at same

/-- A platform that never answers does not get away with it. -/
theorem run_on_silence_not_clean :
    ∃ dialogue, (standard .empty).run [] "mock" = .ok dialogue ∧
      ¬(dialogue.run (fun (_ : Unit) _ => (.error (.silence 10), ())) ()
          { sink := .nowhere }).value.ChecksClean := by
  have begun : (standard .empty).run [] "mock" =
      .ok ((standard .empty).audit Base.plan [] "mock") := rfl
  refine ⟨_, begun, ?_⟩
  have faithful := run_loses_no_verdict begun (fun (_ : Unit) _ => (.error (.silence 10), ())) ()
    { sink := .nowhere }
  rw [← faithful.1]
  decide +kernel

end Agent

end PlatformAudit
