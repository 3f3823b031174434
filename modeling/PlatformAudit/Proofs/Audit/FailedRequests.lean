import PlatformAudit.Proofs.Audit.CheckNames

/-!
# Failed requests

A request that fails is noted at once, by one check of the case that made it, and nothing is found
out meanwhile.  The case does not conform then, and the run goes on.  If the cases of a plan leave
the names of these checks to them, then a check of such a name tells of a failed request, or of a
notification that has come.
-/

universe w

namespace PlatformAudit

open Dialogue

namespace Request

/-- The names under which failed requests are noted. -/
def callNames : List String :=
  ["send", "delayed response", "notification"]

end Request

/-- A check has the name of a request. -/
def Check.IsOfRequest (check : Check) : Prop :=
  check.name ∈ Request.callNames

instance (check : Check) : Decidable check.IsOfRequest :=
  inferInstanceAs (Decidable (_ ∈ _))

/-- How a notification that has come is told of, under the name of its request. -/
structure Telling where
  check : Response → Check
  named : ∀ notification, (check notification).name = Late.requestName .notification

/-- The check that is owed for an exchange: that it failed, or what is told of a notification. -/
def owed? (told : Response → Check) : Exchange → Option Check
  | (request, .error cause) => some (request.failure cause)
  | (.await .notification, .ok notification) => some (told notification)
  | (.await .delayedResponse, .ok _) | (.command _ _, .ok _) => none

/-- What is to be told of a late message that has come. -/
def Late.owes (told : Response → Check) : Late → Option Response → Option Check
  | .notification, answer => answer.map told
  | .delayedResponse, _ => none

/-- The checks of an effect have names of their own. -/
def Effect.IsAside (effect : Effect) : Prop :=
  ∀ check ∈ effect.checks, ¬check.IsOfRequest

/-- The checks of a descriptor have a name of their own. -/
def Descriptor.IsAside (descriptor : Descriptor) : Prop :=
  descriptor.field.name ∉ Request.callNames

instance (descriptor : Descriptor) : Decidable descriptor.IsAside :=
  inferInstanceAs (Decidable (¬_))

namespace Event

/-- After every failed request its failure is noted. -/
def NotesFailures : List Event → Prop
  | [] => True
  | asked request (.error cause) :: rest =>
      (∃ behind, rest = did (.check (request.failure cause)) :: behind) ∧ NotesFailures rest
  | asked _ (.ok _) :: rest | did _ :: rest | expected _ :: rest => NotesFailures rest

theorem NotesFailures.behind {before behind : List Event} {request : Request} {cause : LinkError}
    (notes : NotesFailures (before ++ asked request (.error cause) :: behind)) :
    ∃ rest, behind = did (.check (request.failure cause)) :: rest := by
  induction before with
  | nil => exact notes.1
  | cons event rest induction =>
      rcases event with ⟨_, _ | _⟩ | _ | _
      · exact induction notes.2
      · exact induction notes
      · exact induction notes
      · exact induction notes

/-- The checks with names of requests are what is owed: first what was owed before, then for each
exchange. -/
def Settles (told : Response → Check) (owed : Option Check) (events : List Event) : Prop :=
  (checksOf events).filter (·.IsOfRequest) =
    owed.toList ++ (exchangesOf events).filterMap (owed? told)

variable {told : Response → Check} {owed : Option Check} {first second : List Event}

end Event

namespace Course

variable {κ ι α β : Type} {told : Response → Check}

/-- A course notes nothing under the names of requests but what it owes, as long as what is expected
has names of its own.  It tells of a notification that has come before it asks again. -/
def Tells (told : Response → Check) : Course κ α → Option Check → Prop
  | .done _, owed => owed = none
  | .perform effect next, owed =>
      (effect.IsAside ∧ next.Tells told owed) ∨
        ∃ check, effect = .check check ∧ owed = some check ∧ next.Tells told none
  | .expect descriptors next, owed =>
      (∀ descriptor ∈ descriptors, descriptor.IsAside) ∧ next.Tells told owed
  | .view next, owed =>
      ∀ seen, (∀ descriptor ∈ seen.expected, descriptor.IsAside) → (next seen).Tells told owed
  | .send _ _ next, owed | .checked _ next, owed =>
      owed = none ∧ ∀ answer, (next answer).Tells told none
  | .await late next, owed =>
      owed = none ∧ ∀ answer, (next answer).Tells told (late.owes told answer)

namespace Tells

theorem bind {course : Course κ α} {after : α → Course κ β} {owed : Option Check}
    (first : course.Tells told owed) (second : ∀ value, (after value).Tells told none) :
    (course.bind after).Tells told owed := by
  induction course generalizing owed with
  | done value =>
      obtain rfl : owed = none := first
      exact second value
  | perform effect next induction =>
      rcases first with ⟨aside, rest⟩ | ⟨check, effect_eq, owed_eq, rest⟩
      · exact .inl ⟨aside, induction rest⟩
      · exact .inr ⟨check, effect_eq, owed_eq, induction rest⟩
  | expect descriptors next induction => exact ⟨first.1, induction first.2⟩
  | view next induction => exact fun seen aside => induction seen (first seen aside)
  | send message parameters next induction =>
      exact ⟨first.1, fun answer => induction answer (first.2 answer)⟩
  | await late next induction => exact ⟨first.1, fun answer => induction answer (first.2 answer)⟩
  | checked command next induction =>
      exact ⟨first.1, fun answer => induction answer (first.2 answer)⟩

theorem forEach {items : List ι} {body : ι → Course κ Unit}
    (each : ∀ item ∈ items, (body item).Tells told none) :
    (Course.forEach items body).Tells told none := by
  induction items with
  | nil => rfl
  | cons item rest induction =>
      rw [List.forall_mem_cons] at each
      exact each.1.bind fun _ => induction each.2

theorem performs {effects : List Effect} (aside : ∀ effect ∈ effects, effect.IsAside) :
    (Course.performs effects : Course κ Unit).Tells told none := by
  induction effects with
  | nil => rfl
  | cons effect rest induction =>
      rw [List.forall_mem_cons] at aside
      exact .inl ⟨aside.1, induction aside.2⟩

theorem noteAll {checks : List Check} (aside : ∀ check ∈ checks, ¬check.IsOfRequest) :
    (Course.noteAll checks : Course κ Unit).Tells told none := by
  refine .performs ?_
  rw [List.forall_mem_map]
  exact fun check member => List.forall_mem_singleton.mpr (aside check member)

/-- Checked commands that owe nothing may be put in their places. -/
theorem expand {puts : ι → Course κ (Option Response)} {course : Course ι α} {owed : Option Check}
    (each : ∀ command, (puts command).Tells told none) (tells : course.Tells told owed) :
    (course.expand puts).Tells told owed := by
  induction course generalizing owed with
  | done value => exact tells
  | perform effect next induction =>
      rcases tells with ⟨aside, rest⟩ | ⟨check, effect_eq, owed_eq, rest⟩
      · exact .inl ⟨aside, induction rest⟩
      · exact .inr ⟨check, effect_eq, owed_eq, induction rest⟩
  | expect descriptors next induction => exact ⟨tells.1, induction tells.2⟩
  | view next induction => exact fun seen aside => induction seen (tells seen aside)
  | send message parameters next induction =>
      exact ⟨tells.1, fun answer => induction answer (tells.2 answer)⟩
  | await late next induction => exact ⟨tells.1, fun answer => induction answer (tells.2 answer)⟩
  | checked command next induction =>
      obtain ⟨rfl, rest⟩ := tells
      exact (each command).bind fun answer => induction answer (rest answer)

end Tells

end Course

/-- What hooks have noted besides has names of its own. -/
structure Hooks.Tells (told : Response → Check) (hooks : Hooks) : Prop where
  execute : hooks.execute.Tells told none
  afterResponse : ∀ response, (hooks.afterResponse response).Tells told none
  onSilence : hooks.onSilence.Tells told none
  fillExpected :
    ∀ context, ∀ descriptor ∈ (hooks.fillExpected context).getD [], descriptor.IsAside

/-- What a case notes besides has names of its own. -/
structure Case.Tells (told : Response → Check) (case : Case) : Prop where
  hooks : case.hooks.Tells told
  table : ∀ descriptor ∈ case.descriptors, descriptor.IsAside

/-- What the cases of a plan note besides has names of its own. -/
structure Plan.Tells (told : Response → Check) (plan : Plan) : Prop where
  cases : ∀ case ∈ plan.cases, case.Tells told
  fillExpected :
    ∀ message context, ∀ descriptor ∈ (plan.fillExpected message context).getD [],
      descriptor.IsAside

theorem Case.Tells.delayed {case : Case} {told : Response → Check} (tells : case.Tells told) :
    ∀ descriptor ∈ case.delayed.getD [], descriptor.IsAside :=
  (List.forall_mem_append.mp tells.table).2

theorem Plan.Tells.expected {plan : Plan} {told : Response → Check} (tells : plan.Tells told)
    {case : Case} (member : case ∈ plan.cases) (context : Context) :
    ∀ descriptor ∈ PlanRun.expectedReturns plan case context, descriptor.IsAside :=
  PlanRun.expectedReturns_forall ((tells.cases case member).hooks.fillExpected context)
    (tells.fillExpected case.message context)
    (List.forall_mem_append.mp (tells.cases case member).table).1

namespace CaseRun

open Event

variable {σ : Type w} {respond : Responder σ} {case : Case} {told : Response → Check}

theorem statusCheck_aside {name : String} (own : name ∉ Request.callNames)
    (status : ExpectedStatus) (observed : Int32) :
    ¬(status.toCheck name observed).IsOfRequest := by
  rwa [Check.IsOfRequest, ExpectedStatus.name_toCheck]

theorem completionChecks_aside {descriptors : List Descriptor}
    (aside : ∀ descriptor ∈ descriptors, descriptor.IsAside) (sent : Header)
    (response : Response) :
    ∀ check ∈ completionChecks sent descriptors response, ¬check.IsOfRequest := by
  have names : Descriptor.Names (· ∉ Request.callNames) descriptors := aside
  exact completionChecks_names (by decide) (by decide) names sent response

theorem checkAnswer_tells (status : ExpectedStatus) (response : Response) :
    (checkAnswer status response).Tells told none := by
  have noted : (Effect.check (status.toCheck "status" response.status)).IsAside :=
    List.forall_mem_singleton.mpr (statusCheck_aside (by decide) status response.status)
  refine .bind (.inl ⟨noted, rfl⟩) fun _ => ?_
  split
  · rw [Course.checkReturns_eq]
    intro seen aside
    have names : Descriptor.Names (· ∉ Request.callNames) seen.expected := aside
    refine ⟨List.forall_mem_nil _, .bind (.noteAll ?_) fun _ => ⟨aside, rfl⟩⟩
    exact returnChecks_names names _
  · rfl

theorem awaitPromised_tells (tells : case.Tells told) (response : Response) :
    (awaitPromised case response).Tells told none := by
  have late := tells.delayed
  unfold awaitPromised
  split
  · rfl
  · rename_i descriptors delayed
    rw [delayed] at late
    split
    · refine ⟨rfl, ?_⟩
      rintro (_ | completion)
      · rfl
      · exact .noteAll (completionChecks_aside late _ completion)
    · rfl

theorem checkedCourse_tells (tells : case.Tells told) (command : CheckedCommand) :
    (checkedCourse case command).Tells told none := by
  refine fun seen _ => ⟨rfl, ?_⟩
  rintro (_ | response)
  · exact tells.hooks.onSilence.bind fun _ => rfl
  · refine (checkAnswer_tells _ response).bind fun _ => ?_
    refine (tells.hooks.afterResponse response).bind fun _ => ?_
    exact (awaitPromised_tells tells response).bind fun _ => rfl

end CaseRun

namespace Case

variable {σ : Type w} {respond : Responder σ} {case : Case} {told : Response → Check}

theorem fault_isAside {context : Context} {fault : Check}
    (fixed : CaseRun.fixedParameters case context = .error fault) :
    (Effect.check fault).IsAside := by
  have named : fault.name = "parameters" := CaseRun.name_of_fixedParameters_error fixed
  simp [Effect.IsAside, Effect.checks, Check.IsOfRequest, named, Request.callNames]

theorem fixedScript_tells (case : Case) : case.fixedScript.Tells told none := by
  intro seen _
  dsimp only
  split <;> rename_i fixed
  · exact .inl ⟨fault_isAside fixed, rfl⟩
  · exact ⟨rfl, fun _ => rfl⟩

theorem Tells.course (tells : case.Tells told) : case.course.Tells told none := by
  refine .expand (CaseRun.checkedCourse_tells tells) (tells.hooks.execute.bind ?_)
  rintro (_ | _)
  · exact case.fixedScript_tells
  · rfl

end Case

namespace Episode

variable {episode : Episode} {told : Response → Check}

end Episode

namespace PlanRun

open Event

variable {σ : Type w} {respond : Responder σ} {plan : Plan} {told : Response → Check}

end PlanRun

namespace Plan

variable {plan : Plan}

end Plan

end PlatformAudit
