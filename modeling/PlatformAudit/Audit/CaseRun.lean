import PlatformAudit.Audit.Dialogue
import PlatformAudit.Plan.Case
import PlatformAudit.Text.Column

/-!
# Running a case

A case is run by a dialogue that carries a state along: the token of the next command, the context,
the checks so far, and what is expected of the next answer.  Every command takes a token, whether it
is answered or not, and tokens wrap around at ten bits.

A checked command is a course of steps in a fixed order.  The status is checked first, then on
success the return words, then the hooks of the case have their turn, and then a late completion is
awaited if the case has one.
-/

namespace PlatformAudit

/-- What a running case carries along. -/
structure CaseState where
  token : UInt16
  context : Context
  checks : List Check := []
  expected : List Descriptor := []
  lastStatus : Option Int32 := none
deriving Repr

/-- A dialogue that carries a case state along. -/
abbrev CaseRun := StateT CaseState Dialogue

namespace Check

def line (check : Check) : String :=
  Text.withoutTrailingBlanks
    ("      " ++ Text.column 28 check.name ++ " " ++ check.outcome.label ++ " " ++ check.detail)

end Check

def Late.requestName : Late → String
  | .delayedResponse => "delayed response"
  | .notification => "notification"

namespace CaseRun

/-! ### Single steps -/

def note (check : Check) : CaseRun Unit := fun state =>
  .say check.line (.done ((), { state with checks := state.checks ++ [check] }))

def perform : Effect → CaseRun Unit
  | .check check => note check
  | .decide suite mustRun =>
      modify fun state => { state with context := state.context.decideSuite suite mustRun }
  | .discover edit =>
      modify fun state => { state with context := state.context.discover edit }

def ask (request : Request) : CaseRun Answer := fun state =>
  .ask request fun answer => .done (answer, state)

def requestFailed (name : String) (cause : LinkError) : Check where
  name := name
  outcome := .failed
  detail := cause.message

def takeToken : CaseRun UInt16 := fun state =>
  .done (state.token, { state with token := Header.nextToken state.token })

def nextHeader (case : Case) (message : UInt8) (token : UInt16) : Header :=
  (Header.command case.protocol message).withToken token

/-- Sends a command of the protocol of a case.  A failed request is a failed check. -/
def send (case : Case) (message : UInt8) (parameters : List UInt32) :
    CaseRun (Option Response) := do
  let token ← takeToken
  match ← ask (.command (nextHeader case message token) parameters) with
  | .ok response =>
      modify fun state => { state with lastStatus := some response.status }
      return some response
  | .error cause =>
      note (requestFailed "send" cause)
      return none

def await (late : Late) : CaseRun (Option Response) := do
  match ← ask (.await late) with
  | .ok response => return some response
  | .error cause =>
      note (requestFailed late.requestName cause)
      return none

/-- Plays a course for a case.  `checked` is what is done for its checked commands. -/
@[simp] def play {κ α : Type} (case : Case) (checked : κ → CaseRun (Option Response)) :
    Course κ α → CaseRun α
  | .done value => pure value
  | .perform effect next => do
      perform effect
      play case checked next
  | .expect expected next => do
      modify fun state => { state with expected }
      play case checked next
  | .view next => do
      let state ← get
      play case checked (next { context := state.context, expected := state.expected })
  | .send message parameters next => do
      let answer ← send case message parameters
      play case checked (next answer)
  | .await late next => do
      let answer ← await late
      play case checked (next answer)
  | .checked command next => do
      let answer ← checked command
      play case checked (next answer)

abbrev playPlain {α : Type} (case : Case) (course : PlainCourse α) : CaseRun α :=
  play case Empty.elim course

/-! ### Checked commands -/

def headerCheck (sent received : Header) : Check :=
  if sent.Matches received ∧ sent.token = received.token then
    { name := "delayed header", outcome := .passed, detail := received.text }
  else
    { name := "delayed header"
      outcome := .failed
      detail := "sent " ++ sent.text ++ ", received " ++ received.text }

def returnChecks (descriptors : List Descriptor) (returns : List UInt32) : List Check :=
  descriptors.map fun descriptor => descriptor.toCheck returns

def completionChecks (sent : Header) (descriptors : List Descriptor) (response : Response) :
    List Check :=
  [ headerCheck sent response.header
  , ExpectedStatus.toCheck (.exact .success) "delayed status" response.status ]
    ++ if response.Succeeded then returnChecks descriptors response.returns else []

def awaitCompletion (sent : Header) (descriptors : List Descriptor) : PlainCourse Unit :=
  .await .delayedResponse fun
    | none => .done ()
    | some response => .noteAll (completionChecks sent descriptors response)

/-- Waits for the late completion that an answer promises, if the case has one. -/
def awaitPromised (case : Case) (response : Response) : PlainCourse Unit :=
  match case.delayed with
  | none => .done ()
  | some descriptors =>
      if response.Succeeded then awaitCompletion response.header descriptors else .done ()

/-- Checks the status of an answer and, on success, its return words. -/
def checkAnswer (status : ExpectedStatus) (response : Response) : PlainCourse Unit :=
  (Course.noteStatus "status" status response.status).bind fun _ =>
    if response.Succeeded then .checkReturns response.returns else .done ()

def statusFor (case : Case) (status : Option ExpectedStatus) (context : Context) :
    ExpectedStatus :=
  status.getD ((case.hooks.expectedStatus context).getD case.expectedStatus)

/-- Everything that comes of a checked command of a case. -/
def checkedCourse (case : Case) (command : CheckedCommand) : PlainCourse (Option Response) :=
  Course.context.bind fun context =>
    .send case.message command.parameters fun
      | none => case.hooks.onSilence.bind fun _ => .done none
      | some response =>
          (checkAnswer (statusFor case command.status context) response).bind fun _ =>
            (case.hooks.afterResponse response).bind fun _ =>
              (awaitPromised case response).bind fun _ => .done (some response)

def sendChecked (case : Case) (parameters : List UInt32) (status : Option ExpectedStatus) :
    CaseRun (Option Response) :=
  playPlain case (checkedCourse case { parameters, status })

/-! ### Whole cases -/

abbrev playScript {α : Type} (case : Case) (script : Script α) : CaseRun α :=
  play case (fun command => sendChecked case command.parameters command.status) script

def parameterFault (detail : String) : Check where
  name := "parameters"
  outcome := .error
  detail := detail

/-- The parameters of the fixed command, with the invalid one in its place. -/
def fixedParameters (case : Case) (context : Context) : Except Check (List UInt32) :=
  match case.parameters with
  | .discovered => .error (parameterFault "discovery-driven case has no execute hook")
  | .fixed values =>
      match case.invalidSlot with
      | none => .ok values
      | some slot =>
          if slot.val < values.length then
            .ok (values.set slot.val (case.hooks.invalidValue context))
          else
            .error
              (parameterFault
                ("invalid parameter slot " ++ Text.decimal slot.val ++ " out of range"))

def sendFixed (case : Case) : CaseRun Unit := do
  let state ← get
  match fixedParameters case state.context with
  | .error fault => note fault
  | .ok parameters =>
      let _ ← sendChecked case parameters none
      return ()

def perform? (case : Case) : CaseRun Unit := do
  match ← playScript case case.hooks.execute with
  | .handled => pure ()
  | .standard => sendFixed case

end CaseRun

end PlatformAudit
