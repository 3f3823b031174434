import PlatformAudit.Message.Response
import PlatformAudit.Plan.Context
import PlatformAudit.Plan.Descriptor

/-!
# Scripts of cases

What a case does is a course of actions: it records checks, takes decisions, sends commands, waits
for late messages and goes on with what comes back.  A course is a tree, so everything that any case
may do to a run is one of the constructors below.  The script of a case may also leave it to the
case to send its command and to check the answer.  What comes after such an answer is a course too,
with nothing left to the case.
-/

namespace PlatformAudit

/-- What a case may do without asking the platform. -/
inductive Effect where
  | check (check : Check)
  | decide (suite : Nat) (mustRun : Bool)
  | discover (edit : Discovery.Edit)
deriving DecidableEq, Repr

/-- What a course can see of the run. -/
structure CaseView where
  context : Context
  expected : List Descriptor
deriving Repr

/-- A tree of actions that ends with a value.  What is to be done for a checked command is open. -/
inductive Course (κ α : Type) where
  | done (value : α)
  | perform (effect : Effect) (next : Course κ α)
  | expect (expected : List Descriptor) (next : Course κ α)
  | view (next : CaseView → Course κ α)
  /-- Sends a command and goes on with its answer, if there is one. -/
  | send (message : UInt8) (parameters : List UInt32) (next : Option Response → Course κ α)
  | await (late : Late) (next : Option Response → Course κ α)
  | checked (command : κ) (next : Option Response → Course κ α)

namespace Course

variable {κ α β : Type}

@[simp] def bind : Course κ α → (α → Course κ β) → Course κ β
  | done value, after => after value
  | perform effect next, after => perform effect (next.bind after)
  | expect expected next, after => expect expected (next.bind after)
  | view next, after => view fun seen => (next seen).bind after
  | send message parameters next, after =>
      send message parameters fun answer => (next answer).bind after
  | await late next, after => await late fun answer => (next answer).bind after
  | checked command next, after => checked command fun answer => (next answer).bind after

instance : Monad (Course κ) where
  pure := done
  bind := bind

def performs : List Effect → Course κ Unit
  | [] => done ()
  | effect :: rest => perform effect (performs rest)

def reacts (made : Context → List Effect) : Course κ Unit :=
  view fun seen => performs (made seen.context)

def noteAll (checks : List Check) : Course κ Unit :=
  performs (checks.map .check)

def note (name : String) (outcome : Verdict) (detail : String) : Course κ Unit :=
  perform (.check { name, outcome, detail }) (done ())

def setExpected (expected : List Descriptor) : Course κ Unit :=
  expect expected (done ())

def takeExpected : Course κ (List Descriptor) :=
  view fun seen => expect [] (done seen.expected)

def context : Course κ Context :=
  view fun seen => done seen.context

def command (message : UInt8) (parameters : List UInt32) : Course κ (Option Response) :=
  send message parameters done

def notification : Course κ (Option Response) :=
  await .notification done

def forEach {ι : Type} (items : List ι) (body : ι → Course κ Unit) : Course κ Unit :=
  match items with
  | [] => done ()
  | item :: rest => (body item).bind fun _ => forEach rest body

end Course

/-- Sends the command of a case and checks the answer.  Without a status of its own the status that
the case expects is checked. -/
structure CheckedCommand where
  parameters : List UInt32
  status : Option ExpectedStatus := none
deriving DecidableEq, Repr

/-- A course that leaves checked commands to its case. -/
abbrev Script := Course CheckedCommand

/-- A course that leaves nothing to its case. -/
abbrev PlainCourse := Course Empty

def Script.checkedCommand (parameters : List UInt32) : Script (Option Response) :=
  .checked { parameters } .done

def ExpectedStatus.toCheck (expected : ExpectedStatus) (name : String) (observed : Int32) :
    Check :=
  match expected with
  | .unspecified => { name, outcome := .info, detail := statusText observed }
  | .exact status =>
      if status.code = observed then { name, outcome := .passed, detail := statusText observed }
      else
        { name
          outcome := .failed
          detail := "expected " ++ status.text ++ ", got " ++ statusText observed }

namespace Course

variable {κ : Type}

def noteStatus (name : String) (expected : ExpectedStatus) (observed : Int32) : Course κ Unit :=
  perform (.check (expected.toCheck name observed)) (done ())

def noteReturns (descriptors : List Descriptor) (returns : List UInt32) : Course κ Unit :=
  noteAll (descriptors.map fun descriptor => descriptor.toCheck returns)

/-- Compares return words with what is expected.  Meanwhile the expectation is out of the way. -/
def checkReturns (returns : List UInt32) : Course κ Unit :=
  takeExpected.bind fun expected =>
    (noteReturns expected returns).bind fun _ => setExpected expected

end Course

end PlatformAudit
