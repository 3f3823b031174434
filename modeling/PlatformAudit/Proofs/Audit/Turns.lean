import Mathlib.Data.List.Induction
import PlatformAudit.Proofs.Audit.Chronicle
import PlatformAudit.Proofs.Audit.Gating

/-!
# What goes on from one case to another

The cases of a run have their turns in the order of the plan, those of the discovery suite first.
What one of them leaves goes on to a later one as long as no case in between changes it.
-/

universe w

namespace PlatformAudit

open Dialogue

def Episode.carried (episode : Episode) : PlanState where
  token := episode.start.token
  context := episode.start.context

namespace Plan

variable {σ : Type w} (respond : Responder σ) (plan : Plan) (fixture : Option Fixture)
  (token : UInt16)
  (state : σ)

def turns : List Episode :=
  (plan.chronicle respond fixture token state).flatMap (·.episodes)

/-- A run of a plan as a list of chapters: what is asked and answered in it, what is reported of it,
and which cases have their turn. -/
structure IsToldBy (chapters : List Chapter) : Prop where
  exchanges :
    (plan.runFrom fixture token).transcript respond state = chapters.flatMap Chapter.exchanges
  suites (journal : Journal) :
    ((plan.runFrom fixture token).run respond state journal).value.1.suites =
      chapters.map Chapter.report
  ofSuites : chapters.map (·.suite) = plan.suites
  ofCases : ∀ chapter ∈ chapters,
    chapter.episodes.map (·.case) = if chapter.runs then chapter.suite.active else []

theorem isToldBy_chronicle :
    plan.IsToldBy respond fixture token state (plan.chronicle respond fixture token state) where
  exchanges := plan.transcript_run respond fixture token state
  suites := plan.suites_run respond fixture token state
  ofSuites := plan.suites_chronicle respond fixture token state
  ofCases := plan.cases_chronicle respond fixture token state

namespace IsToldBy

variable {respond} {plan} {fixture} {token} {state} {chapters : List Chapter}
  (told : plan.IsToldBy respond fixture token state chapters)

include told

/-- Every suite has its chapter, at its position in the plan. -/
theorem exists_chapter {position : Nat} {suite : Suite}
    (place : plan.suites[position]? = some suite) :
    ∃ chapter, chapters[position]? = some chapter ∧ chapter.suite = suite := by
  rw [← told.ofSuites, List.getElem?_map] at place
  exact Option.map_eq_some_iff.mp place

theorem episodes_pair {chapter : Chapter} (member : chapter ∈ chapters)
    (runs : chapter.runs = true) {suite : Suite} (ofSuite : chapter.suite = suite)
    {first second : Case} (active : suite.active = [first, second]) :
    ∃ one other, chapter.episodes = [one, other] ∧ one.case = first ∧ other.case = second := by
  have cases : chapter.episodes.map (·.case) = [first, second] := by
    rw [told.ofCases chapter member, runs, if_pos rfl, ofSuite, active]
  obtain ⟨one, rest, episodes, ofFirst, cases⟩ := List.map_eq_cons_iff.mp cases
  obtain ⟨other, rest, rfl, ofSecond, cases⟩ := List.map_eq_cons_iff.mp cases
  obtain rfl := List.map_eq_nil_iff.mp cases
  exact ⟨one, other, episodes, ofFirst, ofSecond⟩

end IsToldBy

end Plan

namespace PlanRun

variable {σ : Type w} {respond : Responder σ} {plan : Plan}

theorem case_of_mem_chapters {suites : List Suite} {position : Nat} {carried : PlanState}
    {state : σ} {episode : Episode}
    (member : episode ∈
      (chapters respond plan suites position carried state).flatMap (·.episodes)) :
    episode.case ∈ suites.flatMap Suite.active := by
  obtain ⟨suite, among, case, active, _, _, rfl⟩ := exists_of_mem_chapters member
  exact List.mem_flatMap.mpr ⟨suite, among, active⟩

/-- What every effect that a case may have keeps of the context is kept by the case. -/
theorem episode_keeps {licence : Licence} {holds : Context → Prop}
    (applies : ∀ effect context, licence.effect effect → holds context →
      holds (effect.apply context))
    (settles : ∀ case verdict status context, holds context →
      holds (settle case verdict status context))
    {case : Case} (within : case.Within licence) {carried : PlanState}
    (begins : holds carried.context) (state : σ) :
    holds (episode respond plan case carried state).after.context := by
  have carries : Carries respond (runCase plan case) carried state
      fun _ _ after _ => holds after.context := by
    apply (runCase_steps plan within carried state).mono
    rintro _ _ _ _ ⟨-, finish, verdict, status, steps, rfl⟩
    rw [← startOf_context plan case carried] at begins
    exact settles case verdict status _ (steps.keep_context applies begins)
  exact episode_leaves carries

section Suites

variable {holds : Context → Prop}
  (moves : ∀ {earlier later : PlanState}, earlier.GoesOn later → holds earlier.context →
    holds later.context)

include moves

end Suites

end PlanRun

namespace Plan

variable {σ : Type w} (respond : Responder σ) {plan : Plan} (fixture : Option Fixture)
  (token : UInt16)
  (state : σ)

section Order

variable {opening : Suite} {rest : List Suite}

/-- All cases of the discovery suite have their turn first. -/
theorem turns_opening (suites_eq : plan.suites = opening :: rest)
    (discovery : plan.discoverySuite = 0) :
    ∃ first others, plan.turns respond fixture token state = first ++ others ∧
      first.map (·.case) = opening.active ∧
      ∀ episode ∈ others, episode.case ∈ rest.flatMap Suite.active := by
  have runs : ((plan.context fixture).enterSuite 0).mustRun 0 = true := by
    have same : (plan.context fixture).discoverySuite = plan.discoverySuite := rfl
    simp [Context.mustRun, Context.enterSuite, same, discovery]
  unfold turns chronicle
  rw [suites_eq, PlanRun.chapters, List.flatMap_cons]
  refine ⟨_, _, rfl, ?_, fun episode member => PlanRun.case_of_mem_chapters member⟩
  rw [PlanRun.cases_chapter, PlanRun.chapter]
  simp [runs]

theorem turns_around {early late : List Case} {source : Case}
    (suites_eq : plan.suites = opening :: rest) (discovery : plan.discoverySuite = 0)
    (active_eq : opening.active = early ++ source :: late) :
    ∃ before turn others, plan.turns respond fixture token state = before ++ turn :: others ∧
      before.map (·.case) = early ∧ turn.case = source ∧
      ∀ episode ∈ others, episode.case ∈ late ++ rest.flatMap Suite.active := by
  obtain ⟨first, others, split, ofOpening, ofRest⟩ :=
    turns_opening respond fixture token state suites_eq discovery
  rw [active_eq] at ofOpening
  obtain ⟨before, behind, rfl, rfl, ofBehind⟩ := List.map_eq_append_iff.mp ofOpening
  obtain ⟨turn, later, rfl, rfl, rfl⟩ := List.map_eq_cons_iff.mp ofBehind
  refine ⟨before, turn, later ++ others, by simpa using split, rfl, rfl, ?_⟩
  intro episode member
  rcases List.mem_append.mp member with early | late
  · exact List.mem_append_left _ (List.mem_map_of_mem early)
  · exact List.mem_append_right _ (ofRest episode late)

end Order

/-- A turn is the episode of its case, from where the turns before it have led. -/
theorem turn_eq {before behind : List Episode} {found : Episode}
    (split : plan.turns respond fixture token state = before ++ found :: behind) :
    found = PlanRun.episode respond plan found.case found.carried
      (Responder.after respond state (before.flatMap Episode.exchanges)) := by
  obtain ⟨case, -, between, -, rfl⟩ := plan.chronicle_split respond fixture token state split
  rfl

/-- What is carried by the run of a case holds of its turn, and of what it leaves. -/
theorem turn_leaves {before behind : List Episode} {found : Episode}
    (split : plan.turns respond fixture token state = before ++ found :: behind)
    {goal : List Exchange → CaseReport → PlanState → σ → Prop}
    (carries : Carries respond (PlanRun.runCase plan found.case) found.carried
      (Responder.after respond state (before.flatMap Episode.exchanges)) goal) :
    goal found.exchanges found.report found.after
      (Responder.after respond state ((before ++ [found]).flatMap Episode.exchanges)) := by
  have leaves := PlanRun.episode_leaves carries
  rw [← turn_eq respond fixture token state split] at leaves
  rw [List.flatMap_append, Responder.after_append, List.flatMap_singleton]
  exact leaves

theorem goesOn_carried {before behind : List Episode} {found : Episode}
    (split : plan.turns respond fixture token state = before ++ found :: behind) :
    (PlanState.behind { token, context := plan.context fixture } before).GoesOn found.carried := by
  obtain ⟨case, -, between, goesOn, rfl⟩ := plan.chronicle_split respond fixture token state split
  exact goesOn

/-- What holds of the context behind some cases holds where a later case begins, if all cases in
between keep it. -/
theorem holds_between {holds : Context → Prop}
    (moves : ∀ {earlier later : PlanState}, earlier.GoesOn later → holds earlier.context →
      holds later.context)
    {before middle behind : List Episode} {found : Episode}
    (split : plan.turns respond fixture token state = before ++ middle ++ found :: behind)
    (begins : holds (PlanState.behind { token, context := plan.context fixture } before).context)
    (keeps : ∀ episode ∈ middle, ∀ carried reached, holds carried.context →
      holds (PlanRun.episode respond plan episode.case carried reached).after.context) :
    holds found.start.context := by
  -- Each case in between begins with what holds, behind the one before it.
  induction middle using List.reverseRecOn generalizing found behind with
  | nil =>
      have goesOn := goesOn_carried respond fixture token state split
      rw [List.append_nil] at goesOn
      exact moves goesOn begins
  | append_singleton middle last induction =>
      have goesOn := goesOn_carried respond fixture token state split
      rw [← List.append_assoc, PlanState.behind_append] at goesOn
      rw [← List.append_assoc, List.append_assoc (before ++ middle)] at split
      have reached := induction split fun episode member =>
        keeps episode (List.mem_append_left _ member)
      have kept := keeps last (List.mem_append_right _ (List.mem_singleton_self _)) last.carried
        (Responder.after respond state ((before ++ middle).flatMap Episode.exchanges)) reached
      rw [← turn_eq respond fixture token state split] at kept
      exact moves goesOn kept

/-- What holds of the context in the beginning and is kept by every case holds where a case
begins. -/
theorem holds_at_start {holds : Context → Prop}
    (moves : ∀ {earlier later : PlanState}, earlier.GoesOn later → holds earlier.context →
      holds later.context)
    (begins : holds (plan.context fixture))
    (keeps : ∀ case ∈ plan.cases, ∀ carried reached, holds carried.context →
      holds (PlanRun.episode respond plan case carried reached).after.context)
    {chapter : Chapter} (member : chapter ∈ plan.chronicle respond fixture token state)
    {episode : Episode} (inside : episode ∈ chapter.episodes) : holds episode.start.context := by
  obtain ⟨before, behind, split⟩ :=
    List.append_of_mem (List.mem_flatMap.mpr ⟨chapter, member, inside⟩)
  have fromStart :
      plan.turns respond fixture token state = [] ++ before ++ episode :: behind := split
  apply holds_between respond fixture token state moves fromStart begins
  intro earlier among
  have turn : earlier ∈ plan.turns respond fixture token state := by
    rw [fromStart]
    exact List.mem_append_left _ among
  exact keeps earlier.case (PlanRun.case_of_mem_chapters turn)

end Plan

/-! ### Undecided suites -/

/-- What cases may do that decide nothing about a suite. -/
def Licence.leaving (suite : Nat) : Licence where
  effect effect := ∀ mustRun, effect ≠ .decide suite mustRun
  command _ _ := True
  checks _ _ := Effect.noConfusion

/-- Nothing has been decided about a suite. -/
def Context.Undecided (suite : Nat) (context : Context) : Prop :=
  ∀ decision ∈ context.decisions, decision.suite ≠ suite

namespace Context.Undecided

variable {suite : Nat} {context : Context}

theorem mustRun (undecided : context.Undecided suite) : context.mustRun suite = true := by
  have none : context.decisions.find? (·.suite = suite) = none := by
    rw [List.find?_eq_none]
    intro decision member same
    exact undecided decision member (of_decide_eq_true same)
  have kept : context.isSkipped suite = false := by rw [isSkipped, none]
  rw [Context.mustRun, kept]
  exact Bool.or_true _

theorem apply (undecided : context.Undecided suite) {effect : Effect}
    (licensed : (Licence.leaving suite).effect effect) :
    (effect.apply context).Undecided suite := by
  cases effect with
  | check check => exact undecided
  | discover edit => exact undecided
  | decide other mustRun =>
      have apart : other ≠ suite := fun same => licensed mustRun (by rw [same])
      simp only [Effect.apply, Context.decideSuite_eq]
      split
      · exact List.forall_mem_cons.mpr ⟨apart, undecided⟩
      · exact undecided

theorem settle (undecided : context.Undecided suite) (case : Case) (verdict : Verdict)
    (status : Option Int32) : (PlanRun.settle case verdict status context).Undecided suite := by
  unfold PlanRun.settle
  cases case.precondition <;> exact undecided

end Context.Undecided

/-- A run of a gated plan ends with the chapter of the suite that the gate is for. -/
theorem Gating.chronicle_governed (gating : Gating) {σ : Type w} (respond : Responder σ)
    (fixture : Option Fixture) (token : UInt16) (state : σ) :
    ∃ ahead chapter answer,
      gating.plan.chronicle respond fixture token state = ahead ++ [chapter] ∧
        ahead.length = gating.gate.suite ∧
        gating.gate.Governs (gating.plan.context fixture) answer gating.gated
          (ahead.flatMap Chapter.exchanges) chapter.exchanges chapter.report := by
  obtain ⟨earlier, report, answer, inside, suites, length, exchanges, governs⟩ :=
    (leads_iff _ _ { sink := .nowhere } _).mp (gating.run_governed fixture token state)
  rw [gating.plan.suites_run respond fixture token state] at suites
  obtain ⟨ahead, last, split, rfl, ofLast⟩ := List.map_eq_append_iff.mp suites
  obtain ⟨chapter, rest, rfl, rfl, ofRest⟩ := List.map_eq_cons_iff.mp ofLast
  obtain rfl := List.map_eq_nil_iff.mp ofRest
  rw [List.length_map] at length
  -- What is exchanged ahead of the suite is what is exchanged in the chapters ahead of it.
  rw [gating.plan.transcript_runSuites_take, split, ← length, List.take_left]
    at exchanges governs
  have whole := gating.plan.transcript_run respond fixture token state
  rw [exchanges, split, List.flatMap_append, List.flatMap_singleton] at whole
  obtain rfl := List.append_cancel_left whole
  exact ⟨ahead, chapter, answer, split, length, governs⟩

end PlatformAudit
