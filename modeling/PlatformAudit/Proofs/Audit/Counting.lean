import PlatformAudit.Proofs.Audit.Verdicts
import PlatformAudit.Proofs.Report.Counting

/-!
# Counted runs

The context of a running plan counts on its own: every case when it is settled, and every suite that
is left out.  Nothing that a case does in between touches these counters, whatever the platform
answers, so in the end they are those of the report.
-/

universe w

namespace PlatformAudit

open Dialogue

namespace Context

section

variable (context : Context)

@[simp] theorem tally_enterSuite (suite : Nat) : (context.enterSuite suite).tally = context.tally :=
  rfl

@[simp] theorem tally_enterCase (case : Nat) : (context.enterCase case).tally = context.tally := rfl

@[simp] theorem tally_finishSuite : context.finishSuite.tally = context.tally := rfl

@[simp] theorem tally_finishProtocol : context.finishProtocol.tally = context.tally := rfl

@[simp] theorem tally_settle (case : Case) (verdict : Verdict) (status : Option Int32) :
    (PlanRun.settle case verdict status context).tally = context.tally + .ofCase verdict := by
  unfold PlanRun.settle
  cases case.precondition <;> rfl

@[simp] theorem tally_apply (effect : Effect) : (effect.apply context).tally = context.tally := by
  cases effect with
  | check check => rfl
  | decide suite mustRun =>
      simp only [Effect.apply, decideSuite_eq]
      split <;> rfl
  | discover edit => rfl

end

end Context

/-- The licence to do and send whatever there is. -/
def Licence.unlimited : Licence where
  effect _ := True
  command _ _ := True
  checks _ := trivial

theorem Course.within_unlimited {κ α : Type} {asks : κ → Prop} (asksAny : ∀ command, asks command)
    (course : Course κ α) : course.Within .unlimited asks := by
  induction course with
  | done value => trivial
  | perform effect next induction => exact ⟨trivial, induction⟩
  | expect expected next induction => exact induction
  | view next induction => exact induction
  | send message parameters next induction => exact ⟨trivial, induction⟩
  | await late next induction => exact induction
  | checked command next induction => exact ⟨asksAny command, induction⟩

theorem Case.within_unlimited (case : Case) : case.Within .unlimited where
  execute := case.hooks.execute.within_unlimited fun _ => trivial
  afterResponse response := (case.hooks.afterResponse response).within_unlimited nofun
  onSilence := case.hooks.onSilence.within_unlimited nofun
  fixed _ _ _ := trivial

namespace CaseRun

variable {licence : Licence} {case : Case} {before after : CaseState} {exchanges : List Exchange}

theorem Step.tally_eq (step : Step licence case before exchanges after) :
    after.context.tally = before.context.tally := by
  cases step with
  | effect licensed => simp
  | expect expected => rfl
  | answered licensed response => rfl
  | unanswered licensed cause => rfl
  | await late answer => rfl

theorem Steps.tally_eq (steps : Steps licence case before exchanges after) :
    after.context.tally = before.context.tally := by
  apply steps.keep fun state => state.context.tally = before.context.tally
  · intro state _ next step same
    rw [step.tally_eq, same]
  · rfl

end CaseRun

namespace PlanRun

variable {σ : Type w} {respond : Responder σ}

/-- A case is counted once, by the verdict that is reported. -/
theorem runCase_tally (plan : Plan) (case : Case) (carried : PlanState) (state : σ) :
    Carries respond (runCase plan case) carried state
      fun _ report after _ =>
        after.context.tally = carried.context.tally + .ofCase report.verdict := by
  cases obstacle : obstacle? case carried.context with
  | some reason =>
      rw [carries_runCase_of_obstacle plan obstacle]
      exact Context.tally_settle _ _ _ _
  | none =>
      rw [carries_runCase plan obstacle]
      apply (CaseRun.perform?_steps case.within_unlimited _ state).mono
      intro _ _ finish _ steps
      simp [steps.tally_eq]

theorem runCases_tally (plan : Plan) (cases : List Case) (position : Nat) (carried : PlanState)
    (state : σ) :
    Carries respond (runCases plan cases position) carried state
      fun _ reports after _ =>
        after.context.tally =
          carried.context.tally + (reports.map fun report => .ofCase report.verdict).sum := by
  induction cases generalizing position carried state with
  | nil => simp
  | cons case rest induction =>
      rw [carries_runCases_cons]
      apply (runCase_tally plan case _ state).mono
      intro _ report between middle counted
      apply (induction (position + 1) between middle).mono
      intro _ reports after _ others
      rw [others, counted, List.map_cons, List.sum_cons, add_assoc, Context.tally_enterCase]

/-- The context counts a suite as its report does, whether the suite runs or is left out. -/
theorem runSuite_tally (plan : Plan) (suite : Suite) (position : Nat) (carried : PlanState)
    (state : σ) :
    Carries respond (runSuite plan suite position) carried state
      fun _ report after _ => after.context.tally = carried.context.tally + report.tally := by
  cases runs : (carried.context.enterSuite position).mustRun position with
  | true =>
      rw [carries_runSuite plan suite runs]
      apply (runCases_tally plan suite.active 0 _ state).mono
      intro _ reports after _ counted
      rw [SuiteReport.ofCases_eq, Context.tally_finishSuite, counted, Context.tally_enterSuite]
  | false =>
      rw [carries_runSuite_of_skipped plan suite runs]
      rfl

theorem runSuites_tally (plan : Plan) (suites : List Suite) (position : Nat)
    (carried : PlanState) (state : σ) :
    Carries respond (runSuites plan suites position) carried state
      fun _ reports after _ =>
        after.context.tally = carried.context.tally + (reports.map (·.tally)).sum := by
  induction suites generalizing position carried state with
  | nil => simp
  | cons suite rest induction =>
      rw [carries_runSuites_cons]
      apply (runSuite_tally plan suite position _ state).mono
      intro _ report between middle counted
      apply (induction (position + 1) between middle).mono
      intro _ reports after _ others
      rw [others, counted, List.map_cons, List.sum_cons, add_assoc]

end PlanRun

/-- The context of a plan has counted in the end what the report has counted. -/
theorem Plan.run_tally {σ : Type w} {respond : Responder σ} (plan : Plan)
    (fixture : Option Fixture) (token : UInt16) (state : σ) :
    (plan.runFrom fixture token).Leads respond state
      fun _ result _ => result.2.context.tally = result.1.tally := by
  rw [Plan.leads_run]
  apply (PlanRun.runSuites_tally plan plan.suites 0 _ state).mono
  intro _ reports after _ counted
  rw [ProtocolReport.ofSuites_eq, Context.tally_finishProtocol, counted]
  exact zero_add _

/-- Everything is counted once.  The context and the report of a plan agree on the cases that were
reported and on the suites that were left out, and the tallies of suites and protocols add up. -/
theorem run_counts_once :
    (∀ {σ : Type w} (respond : Responder σ) (plan : Plan) (fixture : Option Fixture)
        (token : UInt16) (state : σ) (journal : Journal),
      let ran := ((plan.runFrom fixture token).run respond state journal).value
      ran.2.context.tally = ran.1.tally ∧
        ran.1.tally.Counts ran.1.cases (SuiteReport.leftOut ran.1.suites) ∧
        ran.1.tally = (ran.1.suites.map (·.tally)).sum) ∧
    (∀ {σ : Type w} (respond : Responder σ) {agent : Agent} {selection : List UInt8}
        {transport : String} {dialogue : Dialogue RunReport},
      agent.run selection transport = .ok dialogue → ∀ (state : σ) (journal : Journal),
        let report := (dialogue.run respond state journal).value
        report.totals = (report.protocols.map (·.tally)).sum ∧
          ∀ protocol ∈ report.protocols,
            protocol.tally.Counts protocol.cases (SuiteReport.leftOut protocol.suites) ∧
              protocol.tally = (protocol.suites.map (·.tally)).sum) := by
  constructor
  · intro σ respond plan fixture token state journal ran
    have recorded : ran.1.Recorded :=
      (leads_iff _ _ journal _).mp (plan.run_recorded fixture token state)
    have agree : ran.2.context.tally = ran.1.tally :=
      (leads_iff _ _ journal _).mp (plan.run_tally fixture token state)
    exact ⟨agree, recorded.counts, recorded.tally_eq_sum⟩
  · intro σ respond agent selection transport dialogue begun state journal report
    have recorded : report.Recorded := Agent.run_recorded begun state journal
    refine ⟨recorded.totals_eq_sum, fun protocol member => ?_⟩
    have ofProtocol := recorded.protocols_recorded protocol member
    exact ⟨ofProtocol.counts, ofProtocol.tally_eq_sum⟩

/-- A platform that never answers fails all cases but one, for which it would have had to tell how
many protocols there are, and the suite of the optional command is left out. -/
theorem run_on_silence_counts :
    ∃ dialogue, (Agent.standard .empty).run [] "mock" = .ok dialogue ∧
      let report := (dialogue.run (fun (_ : Unit) _ => (.error (.silence 10), ())) ()
        { sink := .nowhere }).value
      report.totals = { tests := .ofNat 11, failures := .ofNat 10, errors := 1, skips := 1 } ∧
        report.totals = (report.protocols.map (·.tally)).sum ∧
          ∃ protocol ∈ report.protocols, protocol.cases.length = 11 ∧
            protocol.tally.Counts protocol.cases 1 := by
  have begun : (Agent.standard .empty).run [] "mock" =
      .ok ((Agent.standard .empty).audit Base.plan [] "mock") := rfl
  refine ⟨_, begun, ?_⟩
  intro report
  obtain ⟨totals, protocols⟩ := run_counts_once.2 _ begun () { sink := .nowhere }
  obtain ⟨protocol, member, cases, leftOut⟩ : ∃ protocol ∈ report.protocols,
      protocol.cases.length = 11 ∧ SuiteReport.leftOut protocol.suites = 1 := by
    decide +kernel
  have counts := (protocols protocol member).1
  rw [leftOut] at counts
  exact ⟨by decide +kernel, totals, protocol, member, cases, counts⟩

end PlatformAudit
