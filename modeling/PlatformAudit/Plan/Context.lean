import PlatformAudit.Plan.Discovery
import PlatformAudit.Plan.Fixture
import PlatformAudit.Plan.Precondition
import PlatformAudit.Report.Tally

/-!
# The context of a running plan

What the cases of one protocol share: where the run is, which suites are to be left out, the last
precondition, and what was found.  A decision to leave a suite out is accepted only before the run
has reached that suite, and never for the discovery suite.
-/

namespace PlatformAudit

/-- How far the run of a plan has come. -/
inductive Phase where
  | setup
  | runningSuite
  | runningCase
  | suiteDone
  | protocolDone
deriving DecidableEq, Repr

def Phase.name : Phase → String
  | setup => "Setup"
  | runningSuite => "RunningSuite"
  | runningCase => "RunningCase"
  | suiteDone => "SuiteDone"
  | protocolDone => "ProtocolDone"

/-- The position of a run: a suite, and a case of it. -/
structure Cursor where
  suite : Nat := 0
  case : Nat := 0
deriving DecidableEq, Repr

/-- A decision whether a suite is to run. -/
structure SuiteDecision where
  suite : Nat
  mustRun : Bool
deriving DecidableEq, Repr

/-- What the cases of one protocol share. -/
structure Context where
  protocol : UInt8
  name : String
  suiteNames : List String
  /-- The suite that is never left out. -/
  discoverySuite : Nat
  fixture : Option Fixture := none
  /-- The decisions that were accepted, the latest one first. -/
  decisions : List SuiteDecision := []
  cursor : Cursor := {}
  phase : Phase := .setup
  tally : Tally := {}
  precondition : Option Precondition := none
  discovered : Discovery := {}
deriving DecidableEq, Repr

namespace Context

/-- A context in which nothing has run. -/
def start (protocol : UInt8) (name : String) (suiteNames : List String) (discoverySuite : Nat)
    (fixture : Option Fixture) : Context where
  protocol := protocol
  name := name
  suiteNames := suiteNames
  discoverySuite := discoverySuite
  fixture := fixture

/-- Goes back to the beginning, with no suite left out.  Findings and counters stay. -/
def setUp (context : Context) : Context :=
  { context with phase := .setup, decisions := [], cursor := {} }

def enterSuite (context : Context) (suite : Nat) : Context :=
  { context with phase := .runningSuite, cursor := { suite } }

def enterCase (context : Context) (case : Nat) : Context :=
  { context with phase := .runningCase, cursor := { context.cursor with case } }

def finishSuite (context : Context) : Context :=
  { context with phase := .suiteDone }

def finishProtocol (context : Context) : Context :=
  { context with phase := .protocolDone }

def recordCase (context : Context) (verdict : Verdict) : Context :=
  { context with tally := context.tally.withCase verdict }

def recordSkippedSuite (context : Context) : Context :=
  { context with tally := context.tally.withSkippedSuite }

/-- Whether a suite is to be left out: the latest decision about it counts. -/
def isSkipped (context : Context) (suite : Nat) : Bool :=
  match context.decisions.find? (·.suite = suite) with
  | some decision => !decision.mustRun
  | none => false

/-- Whether a suite runs.  The discovery suite always does. -/
def mustRun (context : Context) (suite : Nat) : Bool :=
  suite = context.discoverySuite || !context.isSkipped suite

def AcceptsDecision (context : Context) (suite : Nat) : Prop :=
  suite ≠ context.discoverySuite ∧ suite < context.suiteNames.length ∧
    (context.cursor.suite < suite ∨ context.phase = .setup)

instance (context : Context) (suite : Nat) : Decidable (context.AcceptsDecision suite) :=
  inferInstanceAs (Decidable (_ ∧ _ ∧ _))

/-- Answers a call for a decision about a suite.  It is declined, and changes nothing, if the suite
is the discovery suite, has been reached, or is unknown. -/
def answerDecision (context : Context) (suite : Nat) (mustRun : Bool) : Bool × Context :=
  if suite = context.discoverySuite then (false, context)
  else if suite ≤ context.cursor.suite ∧ context.phase ≠ .setup then (false, context)
  else if context.suiteNames.length ≤ suite then (false, context)
  else (true, { context with decisions := { suite, mustRun } :: context.decisions })

def decideSuite (context : Context) (suite : Nat) (mustRun : Bool) : Context :=
  (context.answerDecision suite mustRun).2

theorem answerDecision_of_accepts {context : Context} {suite : Nat}
    (accepts : context.AcceptsDecision suite) (mustRun : Bool) :
    context.answerDecision suite mustRun =
      (true, { context with decisions := { suite, mustRun } :: context.decisions }) := by
  obtain ⟨optional, known, ahead⟩ := accepts
  have notReached : ¬ (suite ≤ context.cursor.suite ∧ context.phase ≠ .setup) := by
    rintro ⟨reached, begun⟩
    exact ahead.elim (Nat.not_lt.mpr reached) begun
  rw [answerDecision, if_neg optional, if_neg notReached, if_neg (Nat.not_le.mpr known)]

theorem answerDecision_of_not_accepts {context : Context} {suite : Nat}
    (declines : ¬ context.AcceptsDecision suite) (mustRun : Bool) :
    context.answerDecision suite mustRun = (false, context) := by
  unfold answerDecision
  split
  · rfl
  split
  · rfl
  split
  · rfl
  · rename_i optional notReached known
    refine absurd ⟨optional, Nat.not_le.mp known, ?_⟩ declines
    by_cases begun : context.phase = .setup
    · exact .inr begun
    · exact .inl (Nat.not_le.mp fun reached => notReached ⟨reached, begun⟩)

theorem decideSuite_eq (context : Context) (suite : Nat) (mustRun : Bool) :
    context.decideSuite suite mustRun =
      if context.AcceptsDecision suite then
        { context with decisions := { suite, mustRun } :: context.decisions }
      else context := by
  unfold decideSuite
  split <;> rename_i accepts
  · rw [answerDecision_of_accepts accepts]
  · rw [answerDecision_of_not_accepts accepts]

/-- The name of a suite, or a question mark if there is no such suite. -/
def suiteName (context : Context) (suite : Nat) : String :=
  context.suiteNames[suite]?.getD "?"

def definePrecondition (context : Context) (precondition : Precondition) : Context :=
  { context with precondition := some precondition }

def discover (context : Context) (edit : Discovery.Edit) : Context :=
  { context with discovered := context.discovered.edit edit }

end Context

end PlatformAudit
