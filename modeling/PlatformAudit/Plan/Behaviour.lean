import PlatformAudit.Plan.Gate

/-!
# Hooks as data

Plans that come from outside of this library describe what their cases do as data.  A `Behaviour`
says which hooks a case has, and a list of actions stands for its script.
-/

namespace PlatformAudit

/-- A request that an action makes. -/
inductive Call where
  | send (message : UInt8) (parameters : List UInt32)
  /-- Sends the command of the case and checks the answer, with a status of its own if one is
  given. -/
  | sendChecked (parameters : List UInt32) (status : Option ExpectedStatus)
  | awaitNotification
deriving DecidableEq, Repr

/-- A step of a case. -/
inductive Action where
  /-- Makes a request.  If the answer is to be shown, it is recorded as a check. -/
  | call (request : Call) (shown : Bool)
  | each (entity : String)
  | setExpected (expected : List Descriptor)
  | assertStatus (name : String) (expected : ExpectedStatus) (observed : Int32)
  | whereabouts (name : String)
  | record (check : Check)
deriving DecidableEq, Repr

def Call.script : Call → Script (Option Response)
  | .send message parameters => .command message parameters
  | .sendChecked parameters status => .checked { parameters, status } .done
  | .awaitNotification => .notification

def Response.noted (response : Response) : Script Unit :=
  .note "answer" .info
    (response.header.text ++ " " ++ Text.signed response.status.toInt ++ " " ++
      Inspect.numbers (response.returns.map (·.toNat)))

/-- How far a run has come: the position, the phase and the number of expected return words. -/
def CaseView.whereabouts (seen : CaseView) : String :=
  Text.decimal seen.context.cursor.suite ++ "." ++ Text.decimal seen.context.cursor.case ++ " " ++
    seen.context.phase.name ++ " " ++ Text.decimal seen.expected.length ++ " expected"

namespace Action

def script : Action → Script Unit
  | .call request shown =>
      request.script.bind fun
        | some response => if shown then response.noted else .done ()
        | none => .done ()
  | .each entity =>
      Course.context.bind fun context =>
        Course.forEach (context.discovered.list entity) fun id =>
          (Script.checkedCommand [id]).bind fun _ => .done ()
  | .setExpected expected => .setExpected expected
  | .assertStatus name expected observed => .noteStatus name expected observed
  | .whereabouts name => .view fun seen => .note name .info seen.whereabouts
  | .record check => .perform (.check check) (.done ())

end Action

/-- What the cases of an outside plan may do in a way of their own. -/
structure Behaviour where
  fill : Option (List Descriptor) := none
  expectedStatus : Option ExpectedStatus := none
  /-- The name under which the value of the invalid parameter was found. -/
  invalidEntity : Option String := none
  /-- The value of the invalid parameter, if it is not to be found. -/
  invalidValue : UInt32 := 0xFFFFFFFF
  gate : Option Gate := none
  /-- The name under which return words are kept, and whether they come behind those kept so
  far. -/
  keepWords : Option (String × Bool) := none
  /-- The name under which the first return word is kept. -/
  keepValue : Option String := none
  /-- The steps of the case, if it has a script. -/
  actions : Option (List Action) := none
  thenStandard : Bool := false

namespace Behaviour

def kept (behaviour : Behaviour) (response : Response) : List Effect :=
  let words : List Effect :=
    match behaviour.keepWords with
    | none => []
    | some (name, true) => [.discover (.extend name response.returns)]
    | some (name, false) => [.discover (.record name response.returns)]
  let value : List Effect :=
    match behaviour.keepValue, response.word? 0 with
    | some name, some word => [.discover (.setValue name word)]
    | _, _ => []
  words ++ value

def hooks (behaviour : Behaviour) : Hooks where
  fillExpected _ := behaviour.fill
  expectedStatus _ := behaviour.expectedStatus
  execute :=
    match behaviour.actions with
    | none => .done .standard
    | some actions =>
        (Course.forEach actions Action.script).bind fun _ =>
          .done (if behaviour.thenStandard then .standard else .handled)
  afterResponse response :=
    .reacts fun context =>
      (match behaviour.gate with
        | none => []
        | some gate => gate.afterResponse response context)
        ++ behaviour.kept response
  onSilence := .performs ((behaviour.gate.map Gate.onSilence).getD [])
  invalidValue context :=
    match behaviour.invalidEntity with
    | none => behaviour.invalidValue
    | some name => (context.discovered.value? name).getD 0xFFFFFFFF

end Behaviour

end PlatformAudit
