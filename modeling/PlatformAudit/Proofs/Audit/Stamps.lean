import PlatformAudit.Audit.Registry
import PlatformAudit.Proofs.Audit.Counting
import PlatformAudit.Proofs.Message.Tokens

/-!
# Stamped commands

Every command carries the token that is next, whoever sends it and whatever comes back.  One step of
a case sends at most one command and takes one token for it, so the tokens go on without a gap
through the cases and the suites of a plan.  They count the commands but for multiples of 1024, and
no two commands among any 1024 in a row have the same token.
-/

universe w

namespace PlatformAudit

open Dialogue

def headersOf (exchanges : List Exchange) : List Header :=
  exchanges.filterMap fun exchange =>
    match exchange.1 with
    | .command header _ => some header
    | .await _ => none

@[simp] theorem headersOf_nil : headersOf [] = [] := rfl

@[simp] theorem headersOf_append (first second : List Exchange) :
    headersOf (first ++ second) = headersOf first ++ headersOf second :=
  List.filterMap_append

theorem headersOf_flatMap {ι : Type w} (items : List ι) (exchanges : ι → List Exchange) :
    headersOf (items.flatMap exchanges) = items.flatMap fun item => headersOf (exchanges item) :=
  List.filterMap_flatMap

/-- A header of a command with the given token, of which the low ten bits are kept. -/
structure Header.IsStamped (header : Header) (token : UInt16) : Prop where
  reserved : header.reserved = 0
  kind : header.kind = .command
  token : header.token = token &&& maxToken

theorem CaseRun.nextHeader_isStamped (case : Case) (message : UInt8) (token : UInt16) :
    (nextHeader case message token).IsStamped token where
  reserved := rfl
  kind := rfl
  token := rfl

/-- Headers of commands that took their tokens one after the other, from the given one on. -/
def StampedFrom : UInt16 → List Header → Prop
  | _, [] => True
  | token, header :: rest => header.IsStamped token ∧ StampedFrom (Header.nextToken token) rest

namespace StampedFrom

variable {token : UInt16} {headers first second : List Header}

theorem append (before : StampedFrom token first)
    (after : StampedFrom (Header.tokenAfter token first.length) second) :
    StampedFrom token (first ++ second) := by
  induction first generalizing token with
  | nil => exact after
  | cons header rest induction => exact ⟨before.1, induction before.2 after⟩

theorem isStamped (stamped : StampedFrom token headers) {number : Nat} {header : Header}
    (found : headers[number]? = some header) :
    header.IsStamped (Header.tokenAfter token number) := by
  induction headers generalizing token number with
  | nil => simp at found
  | cons first rest induction =>
      cases number with
      | zero =>
          obtain rfl : first = header := Option.some.inj found
          exact stamped.1
      | succ number => exact induction stamped.2 (List.getElem?_cons_succ ▸ found)

theorem toNat_token (stamped : StampedFrom token headers) {number : Nat} {header : Header}
    (found : headers[number]? = some header) :
    header.token.toNat = (token.toNat + number) % 1024 := by
  rw [(stamped.isStamped found).token, Header.toNat_and_maxToken, Header.toNat_tokenAfter]

/-- Tokens come back only after 1024 commands. -/
theorem nodup_window (stamped : StampedFrom token headers) (start : Nat) :
    (((headers.drop start).take 1024).map (·.token)).Nodup := by
  apply List.pairwise_iff_getElem.mpr
  intro earlier later earlierInside laterInside order same
  simp only [List.length_map, List.length_take, List.length_drop] at earlierInside laterInside
  simp only [List.getElem_map, List.getElem_take, List.getElem_drop] at same
  have firstInside : start + earlier < headers.length := by omega
  have secondInside : start + later < headers.length := by omega
  have first := stamped.toNat_token (List.getElem?_eq_getElem firstInside)
  have second := stamped.toNat_token (List.getElem?_eq_getElem secondInside)
  rw [same, second] at first
  omega

end StampedFrom

/-- Commands of one protocol that take their tokens from the given one on, and the token that is
left. -/
structure Issues (protocol : UInt8) (token : UInt16) (exchanges : List Exchange) (left : UInt16) :
    Prop where
  stamped : StampedFrom token (headersOf exchanges)
  protocol_eq : ∀ header ∈ headersOf exchanges, header.protocol = protocol
  left_eq : left = Header.tokenAfter token (headersOf exchanges).length

namespace Issues

variable {protocol : UInt8} {token between left : UInt16} {first second : List Exchange}

theorem none (protocol : UInt8) (token : UInt16) : Issues protocol token [] token :=
  ⟨trivial, by simp, rfl⟩

theorem stamped_append (issues : Issues protocol token first between) {headers : List Header}
    (after : StampedFrom between headers) : StampedFrom token (headersOf first ++ headers) := by
  obtain ⟨stamped, -, rfl⟩ := issues
  exact stamped.append after

theorem append (before : Issues protocol token first between)
    (after : Issues protocol between second left) :
    Issues protocol token (first ++ second) left := by
  refine ⟨?_, ?_, ?_⟩ <;> rw [headersOf_append]
  · exact before.stamped_append after.stamped
  · exact List.forall_mem_append.mpr ⟨before.protocol_eq, after.protocol_eq⟩
  · rw [List.length_append, Header.tokenAfter_add, ← before.left_eq, after.left_eq]

end Issues

namespace CaseRun

variable {licence : Licence} {case : Case} {before after : CaseState} {exchanges : List Exchange}

/-- A step sends one command of the case and takes its token, or none. -/
theorem Step.issues (step : Step licence case before exchanges after) :
    Issues case.protocol before.token exchanges after.token := by
  have one (message : UInt8) (parameters : List UInt32) (answer : Answer) :
      Issues case.protocol before.token
        [(.command (nextHeader case message before.token) parameters, answer)]
        (Header.nextToken before.token) :=
    { stamped := ⟨nextHeader_isStamped case message before.token, trivial⟩
      protocol_eq := List.forall_mem_singleton.mpr rfl
      left_eq := rfl }
  cases step with
  | effect licensed => exact .none _ _
  | expect expected => exact .none _ _
  | answered licensed response => exact one _ _ _
  | unanswered licensed cause => exact one _ _ _
  | await late answer => exact ⟨trivial, by simp [headersOf], rfl⟩

theorem Steps.issues (steps : Steps licence case before exchanges after) :
    Issues case.protocol before.token exchanges after.token := by
  induction steps with
  | refl state => exact .none _ _
  | head step _ induction => exact step.issues.append induction

end CaseRun

namespace PlanRun

variable {σ : Type w} {respond : Responder σ} {protocol : UInt8}

theorem runCase_issues (plan : Plan) {case : Case} (ofProtocol : case.protocol = protocol)
    (carried : PlanState) (state : σ) :
    Carries respond (runCase plan case) carried state
      fun exchanges _ after _ => Issues protocol carried.token exchanges after.token := by
  apply (runCase_steps plan case.within_unlimited carried state).mono
  rintro _ _ _ _ ⟨-, finish, _, _, steps, rfl⟩
  exact ofProtocol ▸ steps.issues

theorem runCases_issues (plan : Plan) {cases : List Case}
    (ofProtocol : ∀ case ∈ cases, case.protocol = protocol) (position : Nat)
    (carried : PlanState) (state : σ) :
    Carries respond (runCases plan cases position) carried state
      fun exchanges _ after _ => Issues protocol carried.token exchanges after.token := by
  induction cases generalizing position carried state with
  | nil => exact .none _ _
  | cons case rest induction =>
      rw [List.forall_mem_cons] at ofProtocol
      rw [carries_runCases_cons]
      apply (runCase_issues plan ofProtocol.1 _ state).mono
      intro _ _ between middle first
      apply (induction ofProtocol.2 (position + 1) between middle).mono
      intro _ _ _ _ others
      exact first.append others

theorem runSuite_issues (plan : Plan) {suite : Suite}
    (ofProtocol : ∀ case ∈ suite.active, case.protocol = protocol) (position : Nat)
    (carried : PlanState) (state : σ) :
    Carries respond (runSuite plan suite position) carried state
      fun exchanges _ after _ => Issues protocol carried.token exchanges after.token := by
  cases runs : (carried.context.enterSuite position).mustRun position with
  | true =>
      rw [carries_runSuite plan suite runs]
      exact runCases_issues plan ofProtocol 0 _ state
  | false =>
      rw [carries_runSuite_of_skipped plan suite runs]
      exact .none _ _

theorem runSuites_issues (plan : Plan) {suites : List Suite}
    (ofProtocol : ∀ case ∈ suites.flatMap Suite.active, case.protocol = protocol)
    (position : Nat) (carried : PlanState) (state : σ) :
    Carries respond (runSuites plan suites position) carried state
      fun exchanges _ after _ => Issues protocol carried.token exchanges after.token := by
  induction suites generalizing position carried state with
  | nil => exact .none _ _
  | cons suite rest induction =>
      rw [List.flatMap_cons, List.forall_mem_append] at ofProtocol
      rw [carries_runSuites_cons]
      apply (runSuite_issues plan ofProtocol.1 position _ state).mono
      intro _ _ between middle first
      apply (induction ofProtocol.2 (position + 1) between middle).mono
      intro _ _ _ _ others
      exact first.append others

end PlanRun

/-- A plan whose cases belong to its protocol sends commands of no other. -/
theorem Plan.run_issues {σ : Type w} {respond : Responder σ} {plan : Plan}
    (ofProtocol : ∀ case ∈ plan.cases, case.protocol = plan.protocol)
    (fixture : Option Fixture) (token : UInt16) (state : σ) :
    (plan.runFrom fixture token).Leads respond state
      fun exchanges result _ => Issues plan.protocol token exchanges result.2.token := by
  rw [Plan.leads_run]
  exact PlanRun.runSuites_issues plan ofProtocol 0 _ state

/-- A plan that is run after some commands numbers its own from there on. -/
theorem Plan.run_numbers {σ : Type w} {respond : Responder σ} {plan : Plan}
    (ofProtocol : ∀ case ∈ plan.cases, case.protocol = plan.protocol)
    (fixture : Option Fixture) (sent : Nat) (state : σ) :
    (plan.run fixture sent).Leads respond state
      fun exchanges result _ =>
        (∀ (number : Nat) (header : Header), (headersOf exchanges)[number]? = some header →
          header.token.toNat = (sent + number) % 1024) ∧
        result.2.sent % 1024 = (sent + (headersOf exchanges).length) % 1024 := by
  have start : (UInt16.ofNat sent &&& Header.maxToken).toNat = sent % 1024 := by
    rw [Header.toNat_and_maxToken, UInt16.toNat_ofNat']
    omega
  apply (Plan.run_issues ofProtocol fixture _ state).mono
  intro exchanges result _ issues
  constructor
  · intro number header found
    have token := issues.stamped.toNat_token found
    omega
  · have left := Header.toNat_tokenAfter (UInt16.ofNat sent &&& Header.maxToken)
      (headersOf exchanges).length
    rw [← issues.left_eq, start] at left
    rw [PlanState.sent, left]
    omega

theorem Plan.protocol_of_mem_transcript {σ : Type w} {respond : Responder σ} {plan : Plan}
    (ofProtocol : ∀ case ∈ plan.cases, case.protocol = plan.protocol)
    {fixture : Option Fixture} {token : UInt16} {state : σ} {header : Header}
    {parameters : List UInt32} {answer : Answer}
    (member : (.command header parameters, answer) ∈
      (plan.runFrom fixture token).transcript respond state) :
    header.protocol = plan.protocol := by
  have issues : (plan.runFrom fixture token).Leads respond state _ :=
    Plan.run_issues ofProtocol fixture token state
  have sends := ((leads_iff _ _ { sink := .nowhere } _).mp issues).protocol_eq
  exact sends header (List.mem_filterMap.mpr ⟨_, member, rfl⟩)

end PlatformAudit
