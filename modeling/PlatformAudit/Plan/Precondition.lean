import PlatformAudit.Message.Status
import PlatformAudit.Report.Verdict

/-!
# Preconditions between cases

A case may define a precondition, and later cases may depend on it.  What counts is the last case
that defined one.
-/

namespace PlatformAudit

/-- How a case takes part in the precondition of its protocol. -/
inductive PreconditionRole where
  | none
  | define
  /-- The case runs only if the precondition is met. -/
  | use
deriving DecidableEq, Repr

/-- The outcome of a case that defined a precondition. -/
structure Precondition where
  verdict : Verdict
  status : Int32
deriving DecidableEq, Repr

namespace Precondition

def IsMet (precondition : Precondition) : Prop :=
  precondition.verdict = .conformant ∧ precondition.status = Status.success.code

instance (precondition : Precondition) : Decidable precondition.IsMet :=
  inferInstanceAs (Decidable (_ ∧ _))

/-- Why a case that uses a precondition cannot run, if so. -/
def obstacle? : Option Precondition → Option String
  | .none => some "precondition not met: no defining case ran"
  | some precondition =>
      if precondition.IsMet then .none
      else
        some ("precondition not met: defining case was " ++ precondition.verdict.label ++
          " with status " ++ statusText precondition.status)

end Precondition

end PlatformAudit
