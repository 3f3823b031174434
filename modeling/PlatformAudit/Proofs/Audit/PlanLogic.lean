import PlatformAudit.Audit.PlanRun
import PlatformAudit.Proofs.Audit.CaseSteps

/-!
# Reasoning about the run of a plan

What the run of a case, of a suite and of a plan carries, in terms of the run of its parts.  Each
level is taken apart here once, so that a property of all runs needs only one step of its own for
each level.
-/

universe w

namespace PlatformAudit

open Dialogue

namespace PlanRun

variable {σ : Type w} {respond : Responder σ} {carried : PlanState} {state : σ}

@[simp] theorem carries_say (line : String)
    (goal : List Exchange → Unit → PlanState → σ → Prop) :
    Carries respond (say line) carried state goal ↔ goal [] () carried state :=
  Iff.rfl

@[simp] theorem carries_update (change : Context → Context)
    (goal : List Exchange → Unit → PlanState → σ → Prop) :
    Carries respond (update change) carried state goal ↔
      goal [] () { carried with context := change carried.context } state :=
  Iff.rfl

def startOf (plan : Plan) (case : Case) (carried : PlanState) : CaseState where
  token := carried.token
  context := carried.context
  expected := expectedReturns plan case carried.context

@[simp] theorem startOf_context (plan : Plan) (case : Case) (carried : PlanState) :
    (startOf plan case carried).context = carried.context :=
  rfl

theorem discovered_settle (case : Case) (verdict : Verdict) (status : Option Int32)
    (context : Context) : (settle case verdict status context).discovered = context.discovered := by
  unfold settle
  cases case.precondition <;> rfl

theorem carries_runBody (plan : Plan) (case : Case)
    (goal : List Exchange → List Check × Option Int32 → PlanState → σ → Prop) :
    Carries respond (runBody plan case) carried state goal ↔
      Carries respond (CaseRun.perform? case) (startOf plan case carried) state
        fun exchanges _ finish last =>
          goal exchanges (finish.checks, finish.lastStatus)
            { token := finish.token, context := finish.context } last := by
  unfold Carries runBody
  simp only [leads_bind, leads_done, List.append_nil, startOf]

def reportOf (case : Case) (checks : List Check) : CaseReport :=
  CaseReport.finish { id := case.id, message := case.message, checks }

theorem carries_runCase_of_obstacle (plan : Plan) {case : Case} {reason : String}
    (obstacle : obstacle? case carried.context = some reason)
    (goal : List Exchange → CaseReport → PlanState → σ → Prop) :
    Carries respond (runCase plan case) carried state goal ↔
      goal [] (reportOf case [obstacleCheck reason])
        { carried with
          context :=
            settle case (reportOf case [obstacleCheck reason]).verdict none carried.context }
        state := by
  simp only [runCase, runGuarded, carries_bind, carries_say, carries_get, carries_pure,
    carries_update, obstacle, List.append_nil, List.nil_append, reportOf]

theorem carries_runCase (plan : Plan) {case : Case}
    (free : obstacle? case carried.context = none)
    (goal : List Exchange → CaseReport → PlanState → σ → Prop) :
    Carries respond (runCase plan case) carried state goal ↔
      Carries respond (CaseRun.perform? case) (startOf plan case carried) state
        fun exchanges _ finish last =>
          goal exchanges (reportOf case finish.checks)
            { token := finish.token
              context :=
                settle case (reportOf case finish.checks).verdict finish.lastStatus
                  finish.context }
            last := by
  simp only [runCase, runGuarded, carries_bind, carries_say, carries_get, carries_pure,
    carries_update, free, carries_runBody, List.append_nil, List.nil_append, reportOf]

/-- A case takes the steps that it may take, or none if its precondition is not met, and is settled
afterwards. -/
theorem runCase_steps (plan : Plan) {licence : Licence} {case : Case}
    (within : case.Within licence) (carried : PlanState) (state : σ) :
    Carries respond (runCase plan case) carried state
      fun exchanges report after _ =>
        report.id = case.id ∧
          ∃ finish verdict status,
            CaseRun.Steps licence case (startOf plan case carried) exchanges finish ∧
              after =
                { token := finish.token, context := settle case verdict status finish.context } := by
  cases obstacle : obstacle? case carried.context with
  | some reason =>
      rw [carries_runCase_of_obstacle plan obstacle]
      exact ⟨rfl, _, _, _, .refl _, rfl⟩
  | none =>
      rw [carries_runCase plan obstacle]
      exact (CaseRun.perform?_steps within _ state).mono
        fun _ _ _ _ steps => ⟨rfl, _, _, _, steps, rfl⟩

@[simp] theorem carries_runCases_nil (plan : Plan) (position : Nat)
    (goal : List Exchange → List CaseReport → PlanState → σ → Prop) :
    Carries respond (runCases plan [] position) carried state goal ↔ goal [] [] carried state :=
  Iff.rfl

theorem carries_runCases_cons (plan : Plan) (case : Case) (rest : List Case) (position : Nat)
    (goal : List Exchange → List CaseReport → PlanState → σ → Prop) :
    Carries respond (runCases plan (case :: rest) position) carried state goal ↔
      Carries respond (runCase plan case)
        { carried with context := carried.context.enterCase position } state
        fun first report between middle =>
          Carries respond (runCases plan rest (position + 1)) between middle
            fun second reports => goal (first ++ second) (report :: reports) := by
  simp only [runCases, carries_bind, carries_update, carries_pure, List.append_nil,
    List.nil_append]

theorem carries_runSuite (plan : Plan) (suite : Suite) {position : Nat}
    (runs : (carried.context.enterSuite position).mustRun position = true)
    (goal : List Exchange → SuiteReport → PlanState → σ → Prop) :
    Carries respond (runSuite plan suite position) carried state goal ↔
      Carries respond (runCases plan suite.active 0)
        { carried with context := carried.context.enterSuite position } state
        fun exchanges reports after =>
          goal exchanges (.ofCases suite.name reports)
            { after with context := after.context.finishSuite } := by
  simp only [runSuite, carries_bind, carries_update, carries_get, runs, if_true, carries_say,
    carries_pure, List.append_nil, List.nil_append]

theorem carries_runSuite_of_skipped (plan : Plan) (suite : Suite) {position : Nat}
    (skips : (carried.context.enterSuite position).mustRun position = false)
    (goal : List Exchange → SuiteReport → PlanState → σ → Prop) :
    Carries respond (runSuite plan suite position) carried state goal ↔
      goal [] (.ofSkipped suite.name)
        { carried with
          context := (carried.context.enterSuite position).recordSkippedSuite.finishSuite }
        state := by
  simp only [runSuite, carries_bind, carries_update, carries_get, skips, Bool.false_eq_true,
    if_false, carries_say, carries_pure, List.append_nil]

@[simp] theorem carries_runSuites_nil (plan : Plan) (position : Nat)
    (goal : List Exchange → List SuiteReport → PlanState → σ → Prop) :
    Carries respond (runSuites plan [] position) carried state goal ↔ goal [] [] carried state :=
  Iff.rfl

theorem carries_runSuites_cons (plan : Plan) (suite : Suite) (rest : List Suite) (position : Nat)
    (goal : List Exchange → List SuiteReport → PlanState → σ → Prop) :
    Carries respond (runSuites plan (suite :: rest) position) carried state goal ↔
      Carries respond (runSuite plan suite position) carried state
        fun first report between middle =>
          Carries respond (runSuites plan rest (position + 1)) between middle
            fun second reports => goal (first ++ second) (report :: reports) := by
  simp only [runSuites, carries_bind, carries_pure, List.append_nil]

theorem carries_runSuites_append (plan : Plan) (first second : List Suite) (position : Nat)
    (goal : List Exchange → List SuiteReport → PlanState → σ → Prop) :
    Carries respond (runSuites plan (first ++ second) position) carried state goal ↔
      Carries respond (runSuites plan first position) carried state
        fun before reports between middle =>
          Carries respond (runSuites plan second (position + first.length)) between middle
            fun behind others => goal (before ++ behind) (reports ++ others) := by
  induction first generalizing position carried state goal with
  | nil => simp
  | cons suite first induction =>
      have positions : position + (suite :: first).length = position + 1 + first.length := by
        simp only [List.length_cons]
        omega
      simp only [List.cons_append, carries_runSuites_cons, induction, positions,
        List.append_assoc]

theorem carries_runCases_append (plan : Plan) (first second : List Case) (position : Nat)
    (goal : List Exchange → List CaseReport → PlanState → σ → Prop) :
    Carries respond (runCases plan (first ++ second) position) carried state goal ↔
      Carries respond (runCases plan first position) carried state
        fun before reports between middle =>
          Carries respond (runCases plan second (position + first.length)) between middle
            fun behind others => goal (before ++ behind) (reports ++ others) := by
  induction first generalizing position carried state goal with
  | nil => simp
  | cons case first induction =>
      have positions : position + (case :: first).length = position + 1 + first.length := by
        simp only [List.length_cons]
        omega
      simp only [List.cons_append, carries_runCases_cons, induction, positions,
        List.append_assoc]

end PlanRun

/-- What the run of a plan leads to is what the run of its suites carries. -/
theorem Plan.leads_run {σ : Type w} {respond : Responder σ} {state : σ} (plan : Plan)
    (fixture : Option Fixture) (token : UInt16)
    (goal : List Exchange → ProtocolReport × PlanState → σ → Prop) :
    (plan.runFrom fixture token).Leads respond state goal ↔
      Carries respond (PlanRun.runSuites plan plan.suites 0)
        { token, context := plan.context fixture } state
        fun exchanges suites finish =>
          goal exchanges
            (.ofSuites plan.name plan.protocol suites,
              { finish with context := finish.context.finishProtocol }) := by
  simp only [Plan.runFrom, leads_say, leads_bind, leads_done, List.append_nil, Carries]

end PlatformAudit
