import PlatformAudit.Plan.Script

/-!
# Cases, suites and plans

A case is one interaction with the platform and what is expected of it.  Cases that need more than
a fixed command bring hooks.  Cases make up suites, and suites make up the plan of a protocol.
-/

namespace PlatformAudit

/-- Where the parameters of a command come from. -/
inductive Parameters where
  | fixed (values : List UInt32)
  | discovered
deriving DecidableEq, Repr

/-- What the script of a case leaves to be done. -/
inductive Execution where
  | standard
  | handled
deriving DecidableEq, Repr

/-- What a case does in a way of its own.  By default, nothing.  A course of its own that follows an
answer or a silence may send commands too; to check an answer there, it takes the steps itself. -/
structure Hooks where
  /-- What to expect of the return words, if the case knows better than its table. -/
  fillExpected : Context → Option (List Descriptor) := fun _ => none
  /-- Which status to expect, if the case knows better than its table. -/
  expectedStatus : Context → Option ExpectedStatus := fun _ => none
  execute : Script Execution := .done .standard
  afterResponse : Response → PlainCourse Unit := fun _ => .done ()
  /-- What to do if no answer came. -/
  onSilence : PlainCourse Unit := .done ()
  /-- The value of the parameter that is to be invalid. -/
  invalidValue : Context → UInt32 := fun _ => 0xFFFFFFFF

/-- One interaction with the platform. -/
structure Case where
  id : String
  protocol : UInt8
  message : UInt8
  description : String := ""
  parameters : Parameters := .fixed []
  /-- The parameter that is made invalid before it is sent. -/
  invalidSlot : Option (Fin maxPayloadWords) := none
  expectedStatus : ExpectedStatus := .exact .success
  returns : List Descriptor := []
  precondition : PreconditionRole := .none
  /-- What to expect of the late completion, if there has to be one. -/
  delayed : Option (List Descriptor) := none
  hooks : Hooks := {}

namespace Case

def closingId : String := "END"

def closing : Case where
  id := closingId
  protocol := 0
  message := 0

def isClosing (case : Case) : Bool :=
  case.id = closingId

/-- The parameter of the given position as an invalid one.  The position has to be inside the
payload. -/
def slot? (position : Nat) : Option (Fin maxPayloadWords) :=
  if inside : position < maxPayloadWords then some ⟨position, inside⟩ else none

/-- What is wrong with an invalid parameter outside the payload. -/
def slotOutsidePayload : String := "invalid parameter offset past the mailbox payload"

/-- The position of the invalid parameter, counted from one, or zero if all are valid. -/
def slotNumber (case : Case) : Nat :=
  match case.invalidSlot with
  | none => 0
  | some slot => slot.val + 1

end Case

/-- Cases that belong together, run in order up to the closing case. -/
structure Suite where
  name : String
  cases : List Case

namespace Suite

/-- A suite of the given cases, with the closing case behind them. -/
def ofCases (name : String) (cases : List Case) : Suite where
  name := name
  cases := cases ++ [.closing]

/-- The cases that run: those before the first closing case. -/
def active (suite : Suite) : List Case :=
  suite.cases.takeWhile (!·.isClosing)

end Suite

/-- The suites of one protocol. -/
structure Plan where
  protocol : UInt8
  name : String
  suites : List Suite
  /-- The suite that is never left out. -/
  discoverySuite : Nat := 0
  /-- What to expect of the answer to a message, for cases that do not say so themselves. -/
  fillExpected : UInt8 → Context → Option (List Descriptor) := fun _ _ => none

end PlatformAudit
