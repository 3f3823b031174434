import PlatformAudit.Audit.CaseRun

/-!
# Running a plan

The suites of a plan run in order.  A suite that was decided to be left out is reported as skipped;
of every other suite all cases run, up to the closing one.  The next token is carried through the
whole run, so that tokens go on from one protocol to the next.
-/

namespace PlatformAudit

/-- What the run of a plan carries along between its cases. -/
structure PlanState where
  token : UInt16
  context : Context
deriving Repr

abbrev PlanRun := StateT PlanState Dialogue

def PlanState.sent (state : PlanState) : Nat :=
  state.token.toNat

namespace PlanRun

def say (line : String) : PlanRun Unit := fun state =>
  .say line (.done ((), state))

def update (change : Context → Context) : PlanRun Unit :=
  modify fun state => { state with context := change state.context }

/-- What to expect of the return words of a case: what its hooks say, else what the plan says, else
what its table says. -/
def expectedReturns (plan : Plan) (case : Case) (context : Context) : List Descriptor :=
  match case.hooks.fillExpected context with
  | some expected => expected
  | none => (plan.fillExpected case.message context).getD case.returns

def caseLine (case : Case) : String :=
  Text.withoutTrailingBlanks ("    [" ++ case.id ++ "] " ++ case.description)

def obstacleCheck (reason : String) : Check where
  name := "precondition"
  outcome := .skip
  detail := reason

def obstacle? (case : Case) (context : Context) : Option String :=
  match case.precondition with
  | .use => Precondition.obstacle? context.precondition
  | .none | .define => none

def runBody (plan : Plan) (case : Case) : PlanRun (List Check × Option Int32) := fun state =>
  let start : CaseState :=
    { token := state.token
      context := state.context
      expected := expectedReturns plan case state.context }
  (CaseRun.perform? case start).bind fun (_, finish) =>
    .done ((finish.checks, finish.lastStatus), { token := finish.token, context := finish.context })

def runGuarded (plan : Plan) (case : Case) : PlanRun (List Check × Option Int32) := do
  let state ← get
  match obstacle? case state.context with
  | some reason =>
      say ("      precondition " ++ Verdict.skip.label ++ " " ++ reason)
      return ([obstacleCheck reason], none)
  | none => runBody plan case

/-- The context after a case: counted, and with its outcome as the precondition if it defines
one. -/
def settle (case : Case) (verdict : Verdict) (lastStatus : Option Int32) (context : Context) :
    Context :=
  let defined :=
    match case.precondition with
    | .define =>
        context.definePrecondition { verdict, status := lastStatus.getD unspecifiedStatus }
    | .none | .use => context
  defined.recordCase verdict

def runCase (plan : Plan) (case : Case) : PlanRun CaseReport := do
  say (caseLine case)
  let (checks, lastStatus) ← runGuarded plan case
  let report := CaseReport.finish { id := case.id, message := case.message, checks }
  update (settle case report.verdict lastStatus)
  say ("      => " ++ report.verdict.label)
  return report

/-- Runs cases in order.  The first of them has the given position in its suite. -/
def runCases (plan : Plan) : List Case → Nat → PlanRun (List CaseReport)
  | [], _ => pure []
  | case :: rest, position => do
      update (·.enterCase position)
      let report ← runCase plan case
      let reports ← runCases plan rest (position + 1)
      return report :: reports

def runSuite (plan : Plan) (suite : Suite) (position : Nat) : PlanRun SuiteReport := do
  update (·.enterSuite position)
  let state ← get
  if state.context.mustRun position then
    say ("  " ++ suite.name)
    let cases ← runCases plan suite.active 0
    update (·.finishSuite)
    return .ofCases suite.name cases
  else
    say ("  " ++ suite.name ++ ": " ++ Verdict.skip.label)
    update (·.recordSkippedSuite.finishSuite)
    return .ofSkipped suite.name

def runSuites (plan : Plan) : List Suite → Nat → PlanRun (List SuiteReport)
  | [], _ => pure []
  | suite :: rest, position => do
      let report ← runSuite plan suite position
      let reports ← runSuites plan rest (position + 1)
      return report :: reports

end PlanRun

namespace Plan

def title (plan : Plan) : String :=
  plan.name ++ " protocol (" ++ Text.hexByte plan.protocol ++ ")"

def context (plan : Plan) (fixture : Option Fixture) : Context :=
  Context.setUp
    (.start plan.protocol plan.name (plan.suites.map (·.name)) plan.discoverySuite fixture)

def runFrom (plan : Plan) (fixture : Option Fixture) (token : UInt16) :
    Dialogue (ProtocolReport × PlanState) :=
  .say ("\n" ++ plan.title) <|
    (PlanRun.runSuites plan plan.suites 0 { token, context := plan.context fixture }).bind
      fun (suites, state) =>
        let report := ProtocolReport.ofSuites plan.name plan.protocol suites
        .say ("  " ++ report.tally.text)
          (.done (report, { state with context := state.context.finishProtocol }))

/-- Runs a plan after the given number of commands. -/
def run (plan : Plan) (fixture : Option Fixture) (sent : Nat) :
    Dialogue (ProtocolReport × PlanState) :=
  plan.runFrom fixture (UInt16.ofNat sent &&& Header.maxToken)

end Plan

end PlatformAudit
