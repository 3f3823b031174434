import PlatformAudit.Protocol.Base.Plan
import PlatformAudit.Protocol.Power.Plan
import PlatformAudit.Proofs.Audit.FailedRequests

/-!
# Contained failures

The cases of the base and of the power protocol note nothing under the names of requests, except
that the power protocol tells of the notification it has waited for.  So every request that fails
shows in their reports, once.
-/

universe w

namespace PlatformAudit

namespace Descriptor

variable (field : Field)

end Descriptor

namespace Course

variable {κ α : Type} {told : Response → Check}

theorem Tells.context {next : Context → Course κ α}
    (each : ∀ context, (next context).Tells told none) :
    (Course.context.bind next).Tells told none :=
  fun seen _ => each seen.context

end Course

namespace Hooks.Tells

variable {told : Response → Check}

theorem scripted {execute : Script Execution} (tells : execute.Tells told none)
    (expectedStatus : Context → Option ExpectedStatus) (invalidValue : Context → UInt32) :
    Hooks.Tells told { execute, expectedStatus, invalidValue } where
  execute := tells
  afterResponse _ := rfl
  onSilence := rfl
  fillExpected _ := List.forall_mem_nil _

theorem plain (expectedStatus : Context → Option ExpectedStatus)
    (invalidValue : Context → UInt32) :
    Hooks.Tells told { expectedStatus, invalidValue } :=
  have standard : (Course.done Execution.standard : Script Execution).Tells told none := rfl
  scripted standard expectedStatus invalidValue

theorem gate (gate : Gate) : gate.hooks.Tells told where
  execute := rfl
  afterResponse response := by
    refine fun seen _ => .performs ?_
    simp [Gate.afterResponse, Gate.check, Effect.IsAside, Effect.checks, Check.IsOfRequest,
      Request.callNames]
  onSilence := by
    refine .performs ?_
    simp [Gate.onSilence, Gate.check, Effect.IsAside, Effect.checks, Check.IsOfRequest,
      Request.callNames]
  fillExpected _ := List.forall_mem_nil _

end Hooks.Tells

namespace Protocol

end Protocol

namespace Base

variable {told : Response → Check}

end Base

namespace Power

variable {told : Response → Check}

/-- A notification is told of by whether it is about a change of a power domain. -/
def telling : Telling where
  check := notificationCheck
  named _ := rfl

end Power

end PlatformAudit
