import PlatformAudit.Audit.Registry
import PlatformAudit.Proofs.Audit.Chronicle
import PlatformAudit.Proofs.Plan.CleanChecks

/-!
# The names of checks

A check has the name of the field that it is about, a name that a script or a hook has chosen, or
one of a few names of the run itself.  So it is seen from the tables, the scripts and the hooks of a
plan which names the checks of its cases can have.
-/

universe w

namespace PlatformAudit

open Dialogue

/-- The names that checks are given by the run. -/
def Check.runNames : List String :=
  [ "send", "delayed response", "notification", "status", "delayed header", "delayed status"
  , "parameters" ]

section Predicates

variable (allowed : String → Prop)

/-- The checks of an effect have names that are allowed. -/
def Effect.Names (effect : Effect) : Prop :=
  ∀ check ∈ effect.checks, allowed check.name

def Descriptor.Names (descriptors : List Descriptor) : Prop :=
  ∀ descriptor ∈ descriptors, allowed descriptor.field.name

/-- A course chooses names that are allowed, as long as the names are that it has been given. -/
def Course.Names {κ α : Type} : Course κ α → Prop
  | .done _ => True
  | .perform effect next => effect.Names allowed ∧ next.Names
  | .expect descriptors next => Descriptor.Names allowed descriptors ∧ next.Names
  | .view next => ∀ seen, Descriptor.Names allowed seen.expected → (next seen).Names
  | .send _ _ next | .await _ next | .checked _ next => ∀ answer, (next answer).Names

/-- The table, the script and the hooks of a case have names that are allowed. -/
structure Case.Names (case : Case) : Prop where
  table : Descriptor.Names allowed case.descriptors
  fillExpected : ∀ context, Descriptor.Names allowed ((case.hooks.fillExpected context).getD [])
  execute : case.hooks.execute.Names allowed
  afterResponse : ∀ response, (case.hooks.afterResponse response).Names allowed
  onSilence : case.hooks.onSilence.Names allowed

/-- The cases of a plan have names that are allowed. -/
structure Plan.Names (plan : Plan) : Prop where
  cases : ∀ case ∈ plan.cases, case.Names allowed
  fillExpected :
    ∀ message context, Descriptor.Names allowed ((plan.fillExpected message context).getD [])

end Predicates

namespace Course.Names

variable {allowed : String → Prop} {κ ι α β : Type}

theorem bind {course : Course κ α} {after : α → Course κ β} (first : course.Names allowed)
    (second : ∀ value, (after value).Names allowed) : (course.bind after).Names allowed := by
  induction course with
  | done value => exact second value
  | perform effect next induction => exact ⟨first.1, induction first.2⟩
  | expect descriptors next induction => exact ⟨first.1, induction first.2⟩
  | view next induction => exact fun seen names => induction seen (first seen names)
  | send message parameters next induction => exact fun answer => induction answer (first answer)
  | await late next induction => exact fun answer => induction answer (first answer)
  | checked command next induction => exact fun answer => induction answer (first answer)

theorem performs {effects : List Effect} (names : ∀ effect ∈ effects, effect.Names allowed) :
    (Course.performs effects : Course κ Unit).Names allowed := by
  induction effects with
  | nil => trivial
  | cons effect rest induction =>
      rw [List.forall_mem_cons] at names
      exact ⟨names.1, induction names.2⟩

theorem noteAll {checks : List Check} (names : ∀ check ∈ checks, allowed check.name) :
    (Course.noteAll checks : Course κ Unit).Names allowed := by
  refine .performs ?_
  rw [List.forall_mem_map]
  exact fun check member => List.forall_mem_singleton.mpr (names check member)

theorem expand {puts : ι → Course κ (Option Response)} {course : Course ι α}
    (each : ∀ command, (puts command).Names allowed) (names : course.Names allowed) :
    (course.expand puts).Names allowed := by
  induction course with
  | done value => trivial
  | perform effect next induction => exact ⟨names.1, induction names.2⟩
  | expect descriptors next induction => exact ⟨names.1, induction names.2⟩
  | view next induction => exact fun seen given => induction seen (names seen given)
  | send message parameters next induction => exact fun answer => induction answer (names answer)
  | await late next induction => exact fun answer => induction answer (names answer)
  | checked command next induction =>
      exact (each command).bind fun answer => induction answer (names answer)

end Course.Names

/-- If a case does nothing in a way of its own, its table is all there is. -/
theorem Case.Names.plain {allowed : String → Prop} {case : Case} (hooks : case.hooks = {})
    (table : Descriptor.Names allowed case.descriptors) : case.Names allowed := by
  refine ⟨table, ?_, ?_, ?_, ?_⟩ <;> rw [hooks]
  · exact fun _ => List.forall_mem_nil _
  · trivial
  · exact fun _ => trivial
  · trivial

/-- What is expected of an answer comes from the hooks of the case, its plan or its table. -/
theorem PlanRun.expectedReturns_forall {holds : Descriptor → Prop} {plan : Plan} {case : Case}
    {context : Context}
    (ofHooks : ∀ descriptor ∈ (case.hooks.fillExpected context).getD [], holds descriptor)
    (ofPlan : ∀ descriptor ∈ (plan.fillExpected case.message context).getD [], holds descriptor)
    (ofTable : ∀ descriptor ∈ case.returns, holds descriptor) :
    ∀ descriptor ∈ expectedReturns plan case context, holds descriptor := by
  unfold expectedReturns
  split <;> rename_i filled
  · simpa [filled] using ofHooks
  · cases known : plan.fillExpected case.message context with
    | some descriptors => simpa [known] using ofPlan
    | none => exact ofTable

theorem Plan.Names.expected {allowed : String → Prop} {plan : Plan} (names : plan.Names allowed)
    {case : Case} (member : case ∈ plan.cases) (context : Context) :
    Descriptor.Names allowed (PlanRun.expectedReturns plan case context) :=
  PlanRun.expectedReturns_forall ((names.cases case member).fillExpected context)
    (names.fillExpected case.message context)
    (List.forall_mem_append.mp (names.cases case member).table).1

namespace CaseRun

open Event

variable {σ : Type w} {respond : Responder σ} {case : Case} {allowed : String → Prop}

theorem expected_request (request : Request) (answer : Answer) (before : CaseState) :
    (before.replay (request.events answer)).expected = before.expected := by
  cases request <;> cases answer <;> rfl

theorem returnChecks_names {descriptors : List Descriptor}
    (names : Descriptor.Names allowed descriptors) (returns : List UInt32) :
    ∀ check ∈ returnChecks descriptors returns, allowed check.name := by
  rw [returnChecks, List.forall_mem_map]
  exact names

theorem completionChecks_names (header : allowed "delayed header")
    (status : allowed "delayed status") {descriptors : List Descriptor}
    (names : Descriptor.Names allowed descriptors) (sent : Header) (response : Response) :
    ∀ check ∈ completionChecks sent descriptors response, allowed check.name := by
  simp only [completionChecks, List.forall_mem_append, List.forall_mem_cons, headerCheck_name,
    ExpectedStatus.name_toCheck]
  refine ⟨⟨header, status, by simp⟩, ?_⟩
  split
  · exact returnChecks_names names _
  · simp

theorem name_of_fixedParameters_error {context : Context} {fault : Check}
    (fails : fixedParameters case context = .error fault) : fault.name = "parameters" := by
  unfold fixedParameters at fails
  split at fails
  · cases fails
    rfl
  · split at fails
    · cases fails
    · split at fails
      · cases fails
      · cases fails
        rfl

section Events

variable (own : ∀ name ∈ Check.runNames, allowed name)

include own

theorem request_names (request : Request) (answer : Answer) :
    ∀ check ∈ checksOf (request.events answer), allowed check.name := by
  cases answer with
  | ok response => simp [Request.events]
  | error cause =>
      have called : (request.failure cause).name ∈ Check.runNames := by
        rcases request with _ | (_ | _) <;>
          simp [Request.failure, requestFailed, Request.callName, Late.requestName, Check.runNames]
      simpa [Request.events] using own _ called

theorem checkAnswer_names (status : ExpectedStatus) (response : Response) :
    (checkAnswer status response).Names allowed := by
  have named : allowed (status.toCheck "status" response.status).name := by
    rw [ExpectedStatus.name_toCheck]
    exact own _ (by decide)
  refine .bind ⟨List.forall_mem_singleton.mpr named, trivial⟩ fun _ => ?_
  split
  · rw [Course.checkReturns_eq]
    intro seen names
    refine ⟨List.forall_mem_nil _, .bind (.noteAll ?_) fun _ => ⟨names, trivial⟩⟩
    exact returnChecks_names names _
  · trivial

theorem awaitPromised_names (names : case.Names allowed) (response : Response) :
    (awaitPromised case response).Names allowed := by
  have table := (List.forall_mem_append.mp names.table).2
  unfold awaitPromised
  split
  · trivial
  · rename_i descriptors delayed
    rw [delayed] at table
    split
    · rintro (_ | completion)
      · trivial
      · exact .noteAll
          (completionChecks_names (own _ (by decide)) (own _ (by decide)) table _ completion)
    · trivial

theorem checkedCourse_names (names : case.Names allowed) (command : CheckedCommand) :
    (checkedCourse case command).Names allowed := by
  rintro seen - (_ | response)
  · exact names.onSilence.bind fun _ => trivial
  · refine (checkAnswer_names own _ response).bind fun _ => ?_
    refine (names.afterResponse response).bind fun _ => ?_
    exact (awaitPromised_names own names response).bind fun _ => trivial

theorem fixedScript_names (case : Case) : case.fixedScript.Names allowed := by
  intro seen _
  dsimp only
  cases fixed : fixedParameters case seen.context with
  | ok parameters => exact fun _ => trivial
  | error fault =>
      refine ⟨List.forall_mem_singleton.mpr ?_, trivial⟩
      rw [name_of_fixedParameters_error fixed]
      exact own _ (by decide)

theorem course_names (names : case.Names allowed) : case.course.Names allowed := by
  refine .expand (checkedCourse_names own names) (names.execute.bind ?_)
  rintro (_ | _)
  · exact fixedScript_names own case
  · trivial

theorem play_names {α : Type} {course : PlainCourse α} (names : course.Names allowed)
    {before : CaseState} (expected : Descriptor.Names allowed before.expected) (state : σ) :
    ∀ check ∈ checksOf (course.events respond case before state), allowed check.name := by
  -- What is expected has allowed names all along: only the course itself replaces it.
  induction course generalizing before state with
  | done value => exact List.forall_mem_nil _
  | perform effect next induction =>
      have kept : Descriptor.Names allowed (before.after (.did effect)).expected := expected
      simp only [Course.events, checksOf_did, List.forall_mem_append]
      exact ⟨names.1, induction names.2 kept state⟩
  | expect descriptors next induction =>
      simp only [Course.events, checksOf_expected]
      exact induction names.2 names.1 state
  | view next induction => exact induction _ (names _ expected) expected state
  | send message parameters next induction =>
      simp only [Course.events, checksOf_append, List.forall_mem_append]
      refine ⟨request_names own _ _, induction _ (names _) ?_ _⟩
      rwa [expected_request]
  | await late next induction =>
      simp only [Course.events, checksOf_append, List.forall_mem_append]
      refine ⟨request_names own _ _, induction _ (names _) ?_ _⟩
      rwa [expected_request]
  | checked command next induction => exact command.elim

end Events

end CaseRun

/-- The checks of every case that ran have names that are allowed. -/
theorem Plan.Names.chronicle {σ : Type w} {respond : Responder σ} {allowed : String → Prop}
    {plan : Plan} (names : plan.Names allowed) (own : ∀ name ∈ Check.runNames, allowed name)
    {fixture : Option Fixture} {token : UInt16} {state : σ} {chapter : Chapter} {episode : Episode}
    (member : chapter ∈ plan.chronicle respond fixture token state)
    (inside : episode ∈ chapter.episodes)
    (free : PlanRun.obstacle? episode.case episode.start.context = none) :
    ∀ check ∈ episode.report.checks, allowed check.name := by
  obtain ⟨case, among, carried, between, rfl⟩ :=
    plan.exists_of_mem_chronicle respond fixture token state member inside
  have noObstacle : PlanRun.obstacle? case carried.context = none := free
  have checks : (PlanRun.episode respond plan case carried between).report.checks =
      Event.checksOf (case.events respond (PlanRun.startOf plan case carried) between) := by
    simp [PlanRun.episode, noObstacle, Episode.report, PlanRun.reportOf, CaseReport.finish,
      Episode.finish, CaseState.checks_replay, PlanRun.startOf]
  rw [checks]
  exact CaseRun.play_names own (CaseRun.course_names own (names.cases case among))
    (names.expected among _) between

end PlatformAudit
