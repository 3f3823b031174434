import PlatformAudit.Plan.Case

/-!
# Gates

A gate is a case that asks the platform for an optional command and decides by the answer whether
the suite of that command runs.  If no answer comes, the suite is left out.
-/

namespace PlatformAudit

/-- A question for an optional command, and the suite that depends on the answer. -/
structure Gate where
  suite : Nat
  message : UInt8
  capability : Context → Capability

namespace Gate

def check (outcome : Verdict) (detail : String) : Check where
  name := "capability"
  outcome := outcome
  detail := detail

def decision (gate : Gate) (context : Context) (response : Response) : Capability.Decision :=
  (gate.capability context).decide (Capability.commandBit gate.message) gate.message
    response.status

def afterResponse (gate : Gate) (response : Response) (context : Context) : List Effect :=
  let decision := gate.decision context response
  [.check (check decision.outcome decision.detail), .decide gate.suite decision.mustRun]

def onSilence (gate : Gate) : List Effect :=
  [.check (check .error "no answer from the platform"), .decide gate.suite false]

def hooks (gate : Gate) : Hooks where
  afterResponse response := .reacts (gate.afterResponse response)
  onSilence := .performs gate.onSilence

end Gate

end PlatformAudit
