import PlatformAudit.Audit.Registry
import PlatformAudit.Proofs.Audit.CaseEvents
import PlatformAudit.Proofs.Audit.PlanLogic
import PlatformAudit.Proofs.Report.RollUp

/-!
# The chronicle of a plan

The run of a plan as a list of chapters, one for each suite, and each chapter as a list of episodes,
one for each case that had its turn.  The report of a plan and what was asked and answered in its
run are read off its chronicle.
-/

universe w

namespace PlatformAudit

open Dialogue

/-- A case that had its turn: the state in which it began, and what happened. -/
structure Episode where
  case : Case
  start : CaseState
  events : List Event

namespace Episode

variable (episode : Episode)

def finish : CaseState :=
  episode.start.replay episode.events

def exchanges : List Exchange :=
  Event.exchangesOf episode.events

def report : CaseReport :=
  PlanRun.reportOf episode.case episode.finish.checks

def after : PlanState where
  token := episode.finish.token
  context :=
    PlanRun.settle episode.case episode.report.verdict episode.finish.lastStatus
      episode.finish.context

end Episode

/-- A suite that had its turn: the state in which it was entered, whether it ran, and its cases. -/
structure Chapter where
  suite : Suite
  start : PlanState
  runs : Bool
  episodes : List Episode

/-- What the run of a plan carries along behind some cases. -/
def PlanState.behind (carried : PlanState) (episodes : List Episode) : PlanState :=
  episodes.foldl (fun _ episode => episode.after) carried

@[simp] theorem PlanState.behind_nil (carried : PlanState) : carried.behind [] = carried := rfl

@[simp] theorem PlanState.behind_cons (carried : PlanState) (episode : Episode)
    (rest : List Episode) :
    carried.behind (episode :: rest) = episode.after.behind rest := rfl

theorem PlanState.behind_append (carried : PlanState) (first second : List Episode) :
    carried.behind (first ++ second) = (carried.behind first).behind second :=
  List.foldl_append

/-- Between two cases the run goes on: its position and its counters change, and nothing else that
it carries along. -/
structure PlanState.GoesOn (earlier later : PlanState) : Prop where
  token : later.token = earlier.token
  context :
    later.context =
      { earlier.context with
        cursor := later.context.cursor
        phase := later.context.phase
        tally := later.context.tally }

namespace PlanState.GoesOn

variable {earlier middle later : PlanState}

theorem refl (carried : PlanState) : carried.GoesOn carried := ⟨rfl, rfl⟩

theorem trans (first : earlier.GoesOn middle) (second : middle.GoesOn later) :
    earlier.GoesOn later where
  token := second.token.trans first.token
  context := second.context.trans (by rw [first.context])

theorem precondition_eq (goesOn : earlier.GoesOn later) :
    later.context.precondition = earlier.context.precondition := by
  rw [goesOn.context]

theorem discovered_eq (goesOn : earlier.GoesOn later) :
    later.context.discovered = earlier.context.discovered := by
  rw [goesOn.context]

/-- Behind a case nothing is left of what was carried along before it. -/
theorem behind (goesOn : earlier.GoesOn later) (episodes : List Episode) :
    (earlier.behind episodes).GoesOn (later.behind episodes) := by
  cases episodes with
  | nil => exact goesOn
  | cons episode rest => exact .refl _

end PlanState.GoesOn

namespace Chapter

variable (chapter : Chapter)

def exchanges : List Exchange :=
  chapter.episodes.flatMap Episode.exchanges

def report : SuiteReport :=
  if chapter.runs then .ofCases chapter.suite.name (chapter.episodes.map Episode.report)
  else .ofSkipped chapter.suite.name

def after : PlanState :=
  let last := chapter.start.behind chapter.episodes
  if chapter.runs then { last with context := last.context.finishSuite }
  else { last with context := last.context.recordSkippedSuite.finishSuite }

theorem skipped_report : chapter.report.skipped = !chapter.runs := by
  unfold report
  split <;> rename_i runs
  · rw [SuiteReport.ofCases_eq, runs]
    rfl
  · rw [Bool.not_eq_true] at runs
    rw [runs]
    rfl

theorem name_report : chapter.report.name = chapter.suite.name := by
  unfold report
  split
  · rw [SuiteReport.ofCases_eq]
  · rfl

theorem cases_report :
    chapter.report.cases = if chapter.runs then chapter.episodes.map Episode.report else [] := by
  unfold report
  split
  · rw [SuiteReport.ofCases_eq]
  · rfl

end Chapter

namespace PlanRun

variable {σ : Type w} (respond : Responder σ) (plan : Plan)

/-- The episode of a case.  If its precondition stands in the way, only that is noted. -/
def episode (case : Case) (carried : PlanState) (state : σ) : Episode where
  case := case
  start := startOf plan case carried
  events :=
    match obstacle? case carried.context with
    | some reason => Event.notes [obstacleCheck reason]
    | none => case.events respond (startOf plan case carried) state

def episodes : List Case → Nat → PlanState → σ → List Episode
  | [], _, _, _ => []
  | case :: rest, position, carried, state =>
      let first :=
        episode respond plan case { carried with context := carried.context.enterCase position }
          state
      first ::
        episodes rest (position + 1) first.after (Responder.after respond state first.exchanges)

/-- The chapter of a suite with the given position in its plan. -/
def chapter (suite : Suite) (position : Nat) (carried : PlanState) (state : σ) : Chapter :=
  let entered : PlanState := { carried with context := carried.context.enterSuite position }
  let runs := entered.context.mustRun position
  { suite
    start := entered
    runs
    episodes := if runs then episodes respond plan suite.active 0 entered state else [] }

def chapters : List Suite → Nat → PlanState → σ → List Chapter
  | [], _, _, _ => []
  | suite :: rest, position, carried, state =>
      let first := chapter respond plan suite position carried state
      first ::
        chapters rest (position + 1) first.after (Responder.after respond state first.exchanges)

variable {respond} {plan}

theorem cases_episodes (cases : List Case) (position : Nat) (carried : PlanState) (state : σ) :
    (episodes respond plan cases position carried state).map (·.case) = cases := by
  induction cases generalizing position carried state with
  | nil => rfl
  | cons case rest induction => exact congrArg (case :: ·) (induction _ _ _)

theorem suites_chapters (suites : List Suite) (position : Nat) (carried : PlanState) (state : σ) :
    (chapters respond plan suites position carried state).map (·.suite) = suites := by
  induction suites generalizing position carried state with
  | nil => rfl
  | cons suite rest induction => exact congrArg (suite :: ·) (induction _ _ _)

theorem chapters_take (suites : List Suite) (count position : Nat) (carried : PlanState)
    (state : σ) :
    chapters respond plan (suites.take count) position carried state =
      (chapters respond plan suites position carried state).take count := by
  induction suites generalizing count position carried state with
  | nil => simp [chapters]
  | cons suite rest induction =>
      cases count with
      | zero => rfl
      | succ count => exact congrArg (_ :: ·) (induction _ _ _ _)

/-- The cases of a suite have their turn if the suite runs, and none of them has it otherwise. -/
theorem cases_chapter (suite : Suite) (position : Nat) (carried : PlanState) (state : σ) :
    let chapter := chapter respond plan suite position carried state
    chapter.episodes.map (·.case) = if chapter.runs then suite.active else [] := by
  dsimp only [chapter]
  split
  · exact cases_episodes suite.active 0 _ state
  · rfl

theorem cases_chapters {suites : List Suite} {position : Nat} {carried : PlanState} {state : σ} :
    ∀ chapter ∈ chapters respond plan suites position carried state,
      chapter.episodes.map (·.case) = if chapter.runs then chapter.suite.active else [] := by
  induction suites generalizing position carried state with
  | nil => simp [chapters]
  | cons suite rest induction =>
      simp only [chapters, List.forall_mem_cons]
      exact ⟨cases_chapter suite position carried state, induction⟩

theorem exists_of_mem_episodes {cases : List Case} {position : Nat} {carried : PlanState}
    {state : σ} {found : Episode}
    (member : found ∈ episodes respond plan cases position carried state) :
    ∃ case ∈ cases, ∃ carried state, found = episode respond plan case carried state := by
  induction cases generalizing position carried state with
  | nil => simp [episodes] at member
  | cons case rest induction =>
      rcases List.mem_cons.mp member with rfl | later
      · exact ⟨case, List.mem_cons_self, _, _, rfl⟩
      · obtain ⟨other, inside, origin⟩ := induction later
        exact ⟨other, List.mem_cons_of_mem _ inside, origin⟩

theorem exists_of_mem_chapter {suite : Suite} {position : Nat} {carried : PlanState} {state : σ}
    {found : Episode}
    (inside : found ∈ (chapter respond plan suite position carried state).episodes) :
    ∃ case ∈ suite.active, ∃ carried state, found = episode respond plan case carried state := by
  unfold chapter at inside
  dsimp only at inside
  split at inside
  · exact exists_of_mem_episodes inside
  · simp at inside

theorem exists_of_mem_chapters {suites : List Suite} {position : Nat} {carried : PlanState}
    {state : σ} {found : Episode}
    (member : found ∈ (chapters respond plan suites position carried state).flatMap (·.episodes)) :
    ∃ suite ∈ suites, ∃ case ∈ suite.active, ∃ carried state,
      found = episode respond plan case carried state := by
  induction suites generalizing position carried state with
  | nil => simp [chapters] at member
  | cons suite rest induction =>
      rcases List.mem_append.mp member with ofSuite | later
      · exact ⟨suite, List.mem_cons_self, exists_of_mem_chapter ofSuite⟩
      · obtain ⟨other, among, origin⟩ := induction later
        exact ⟨other, List.mem_cons_of_mem _ among, origin⟩

private theorem split_of_append {α : Type} {first second before behind : List α} {found : α}
    (split : first ++ second = before ++ found :: behind) :
    (∃ more, first = before ++ found :: more) ∨
      ∃ later, before = first ++ later ∧ second = later ++ found :: behind := by
  rcases List.append_eq_append_iff.mp split with ⟨later, inside, others⟩ | ⟨middle, inside, others⟩
  · exact .inr ⟨later, inside, others⟩
  · cases middle with
    | nil => exact .inr ⟨[], by simpa using inside.symm, by simpa using others.symm⟩
    | cons head rest =>
        obtain ⟨rfl, -⟩ := List.cons.inj others
        exact .inl ⟨rest, inside⟩

/-- What leads up to an episode: it begins where the episode before it has ended. -/
theorem episodes_split {cases : List Case} {position : Nat} {carried : PlanState} {state : σ}
    {before behind : List Episode} {found : Episode}
    (split : episodes respond plan cases position carried state = before ++ found :: behind) :
    ∃ case ∈ cases, ∃ between, (carried.behind before).GoesOn between ∧
      found = episode respond plan case between
        (Responder.after respond state (before.flatMap Episode.exchanges)) := by
  induction before generalizing cases position carried state with
  | nil =>
      cases cases with
      | nil => cases split
      | cons case rest =>
          obtain ⟨first, -⟩ := List.cons.inj split
          refine ⟨case, List.mem_cons_self, _, ?_, first.symm⟩
          exact ⟨rfl, rfl⟩
  | cons earliest before induction =>
      cases cases with
      | nil => cases split
      | cons case rest =>
          obtain ⟨rfl, others⟩ := List.cons.inj split
          obtain ⟨other, inside, between, goesOn, origin⟩ := induction others
          refine ⟨other, List.mem_cons_of_mem _ inside, between, goesOn, ?_⟩
          rw [origin, List.flatMap_cons, Responder.after_append]

theorem chapter_split {suite : Suite} {position : Nat} {carried : PlanState} {state : σ}
    {before behind : List Episode} {found : Episode}
    (split : (chapter respond plan suite position carried state).episodes =
      before ++ found :: behind) :
    ∃ case ∈ suite.active, ∃ between, (carried.behind before).GoesOn between ∧
      found = episode respond plan case between
        (Responder.after respond state (before.flatMap Episode.exchanges)) := by
  unfold chapter at split
  dsimp only at split
  split at split
  case isTrue =>
    obtain ⟨case, inside, between, goesOn, origin⟩ := episodes_split split
    have entered : carried.GoesOn
        { carried with context := carried.context.enterSuite position } := ⟨rfl, rfl⟩
    exact ⟨case, inside, between, (entered.behind before).trans goesOn, origin⟩
  case isFalse => cases before <;> cases split

theorem goesOn_finished (chapter : Chapter) :
    (chapter.start.behind chapter.episodes).GoesOn chapter.after := by
  unfold Chapter.after
  split
  · exact ⟨rfl, rfl⟩
  · exact ⟨rfl, rfl⟩

variable (respond plan) in
theorem goesOn_after_chapter (suite : Suite) (position : Nat) (carried : PlanState) (state : σ) :
    let chapter := chapter respond plan suite position carried state
    (carried.behind chapter.episodes).GoesOn chapter.after := by
  intro chapter
  have entered : carried.GoesOn chapter.start := ⟨rfl, rfl⟩
  exact (entered.behind _).trans (goesOn_finished chapter)

/-- The same for the episodes of several suites.  Whatever happens between two suites, the run only
goes on. -/
theorem chapters_split {suites : List Suite} {position : Nat} {carried : PlanState} {state : σ}
    {before behind : List Episode} {found : Episode}
    (split : (chapters respond plan suites position carried state).flatMap (·.episodes) =
      before ++ found :: behind) :
    ∃ case ∈ suites.flatMap Suite.active, ∃ between, (carried.behind before).GoesOn between ∧
      found = episode respond plan case between
        (Responder.after respond state (before.flatMap Episode.exchanges)) := by
  induction suites generalizing position carried state before with
  | nil => cases before <;> cases split
  | cons suite rest induction =>
      simp only [chapters, List.flatMap_cons] at split ⊢
      have goesOn := goesOn_after_chapter respond plan suite position carried state
      generalize ofSuite : chapter respond plan suite position carried state = first at *
      rcases split_of_append split with ⟨more, inside⟩ | ⟨later, rfl, others⟩
      · rw [← ofSuite] at inside
        obtain ⟨case, member, reached⟩ := chapter_split inside
        exact ⟨case, List.mem_append_left _ member, reached⟩
      · obtain ⟨case, member, between, further, origin⟩ := induction others
        refine ⟨case, List.mem_append_right _ member, between, ?_, ?_⟩
        · rw [PlanState.behind_append]
          exact (goesOn.behind later).trans further
        · rw [origin, List.flatMap_append, Responder.after_append]
          rfl

theorem runCase_episode (case : Case) (carried : PlanState) (state : σ) :
    Carries respond (runCase plan case) carried state
      fun exchanges report after _ =>
        let episode := episode respond plan case carried state
        exchanges = episode.exchanges ∧ report = episode.report ∧ after = episode.after := by
  cases obstacle : obstacle? case carried.context with
  | some reason =>
      rw [carries_runCase_of_obstacle plan obstacle]
      simp [episode, obstacle, Episode.exchanges, Episode.report, Episode.after, Episode.finish,
        startOf]
  | none =>
      rw [carries_runCase plan obstacle]
      apply (CaseRun.perform?_events case (startOf plan case carried) state).mono
      rintro _ _ _ _ ⟨rfl, rfl⟩
      simp [episode, obstacle, Episode.exchanges, Episode.report, Episode.after, Episode.finish]

/-- What is carried by the run of a case holds of its episode, and of what it leaves. -/
theorem episode_leaves {case : Case} {carried : PlanState} {state : σ}
    {goal : List Exchange → CaseReport → PlanState → σ → Prop}
    (carries : Carries respond (runCase plan case) carried state goal) :
    let episode := episode respond plan case carried state
    goal episode.exchanges episode.report episode.after
      (Responder.after respond state episode.exchanges) := by
  have both := (carries.and (runCase_episode case carried state)).and (carries_after _ _ _)
  obtain ⟨⟨holds, exchanges, report, after⟩, last⟩ :=
    (leads_iff _ _ { sink := .nowhere } _).mp both
  rwa [last, exchanges, report, after] at holds

theorem episode_of_carries {case : Case} {carried : PlanState} {state : σ}
    {goal : List Exchange → CaseReport → PlanState → Prop}
    (carries : Carries respond (runCase plan case) carried state
      fun exchanges report after _ => goal exchanges report after) :
    let episode := episode respond plan case carried state
    goal episode.exchanges episode.report episode.after :=
  episode_leaves carries

theorem runCases_episodes (cases : List Case) (position : Nat) (carried : PlanState) (state : σ) :
    Carries respond (runCases plan cases position) carried state
      fun exchanges reports after _ =>
        let episodes := episodes respond plan cases position carried state
        exchanges = episodes.flatMap Episode.exchanges ∧
          reports = episodes.map Episode.report ∧ after = carried.behind episodes := by
  induction cases generalizing position carried state with
  | nil => exact ⟨rfl, rfl, rfl⟩
  | cons case rest induction =>
      rw [carries_runCases_cons]
      apply ((runCase_episode case _ state).and (carries_after _ _ _)).mono
      rintro _ _ _ _ ⟨⟨rfl, rfl, rfl⟩, rfl⟩
      apply (induction _ _ _).mono
      rintro _ _ _ _ ⟨rfl, rfl, rfl⟩
      exact ⟨rfl, rfl, rfl⟩

theorem runSuite_chapter (suite : Suite) (position : Nat) (carried : PlanState) (state : σ) :
    Carries respond (runSuite plan suite position) carried state
      fun exchanges report after _ =>
        let chapter := chapter respond plan suite position carried state
        exchanges = chapter.exchanges ∧ report = chapter.report ∧ after = chapter.after := by
  cases runs : (carried.context.enterSuite position).mustRun position with
  | true =>
      rw [carries_runSuite plan suite runs]
      apply (runCases_episodes suite.active 0 _ state).mono
      rintro _ _ _ _ ⟨rfl, rfl, rfl⟩
      simp [chapter, runs, Chapter.exchanges, Chapter.report, Chapter.after]
  | false =>
      rw [carries_runSuite_of_skipped plan suite runs]
      simp [chapter, runs, Chapter.exchanges, Chapter.report, Chapter.after]

theorem runSuites_chapters (suites : List Suite) (position : Nat) (carried : PlanState)
    (state : σ) :
    Carries respond (runSuites plan suites position) carried state
      fun exchanges reports _ _ =>
        let chapters := chapters respond plan suites position carried state
        exchanges = chapters.flatMap Chapter.exchanges ∧
          reports = chapters.map Chapter.report := by
  induction suites generalizing position carried state with
  | nil => exact ⟨rfl, rfl⟩
  | cons suite rest induction =>
      rw [carries_runSuites_cons]
      apply ((runSuite_chapter suite position _ state).and (carries_after _ _ _)).mono
      rintro _ _ _ _ ⟨⟨rfl, rfl, rfl⟩, rfl⟩
      apply (induction _ _ _).mono
      rintro _ _ _ _ ⟨rfl, rfl⟩
      exact ⟨rfl, rfl⟩

end PlanRun

namespace Plan

variable {σ : Type w} (respond : Responder σ) (plan : Plan) (fixture : Option Fixture)
  (token : UInt16)
  (state : σ)

def chronicle : List Chapter :=
  PlanRun.chapters respond plan plan.suites 0 { token, context := plan.context fixture } state

/-- A run of a plan is what its chronicle tells. -/
theorem run_chronicle :
    (plan.runFrom fixture token).Leads respond state
      fun exchanges result _ =>
        let chronicle := plan.chronicle respond fixture token state
        exchanges = chronicle.flatMap Chapter.exchanges ∧
          result.1 = .ofSuites plan.name plan.protocol (chronicle.map Chapter.report) := by
  rw [leads_run]
  apply (PlanRun.runSuites_chapters plan.suites 0 _ state).mono
  rintro _ _ _ _ ⟨rfl, rfl⟩
  exact ⟨rfl, rfl⟩

theorem transcript_run :
    (plan.runFrom fixture token).transcript respond state =
      (plan.chronicle respond fixture token state).flatMap Chapter.exchanges :=
  ((leads_iff _ _ { sink := .nowhere } _).mp (plan.run_chronicle respond fixture token state)).1

/-- What is exchanged in the first suites of a plan. -/
theorem transcript_runSuites_take (count : Nat) :
    Dialogue.transcript respond
        (PlanRun.runSuites plan (plan.suites.take count) 0
          { token, context := plan.context fixture })
        state =
      ((plan.chronicle respond fixture token state).take count).flatMap Chapter.exchanges := by
  have told : Carries respond (PlanRun.runSuites plan (plan.suites.take count) 0)
      { token, context := plan.context fixture } state _ := PlanRun.runSuites_chapters _ 0 _ state
  rw [PlanRun.chapters_take] at told
  exact ((leads_iff _ _ { sink := .nowhere } _).mp told).1

theorem suites_run (journal : Journal) :
    ((plan.runFrom fixture token).run respond state journal).value.1.suites =
      (plan.chronicle respond fixture token state).map Chapter.report := by
  have reported := ((leads_iff _ _ journal _).mp (plan.run_chronicle respond fixture token state)).2
  rw [reported, ProtocolReport.ofSuites_eq]

theorem suites_chronicle :
    (plan.chronicle respond fixture token state).map (·.suite) = plan.suites :=
  PlanRun.suites_chapters _ _ _ _

theorem cases_chronicle :
    ∀ chapter ∈ plan.chronicle respond fixture token state,
      chapter.episodes.map (·.case) = if chapter.runs then chapter.suite.active else [] :=
  PlanRun.cases_chapters

theorem exists_of_mem_chronicle {chapter : Chapter} {episode : Episode}
    (member : chapter ∈ plan.chronicle respond fixture token state)
    (inside : episode ∈ chapter.episodes) :
    ∃ case ∈ plan.cases, ∃ carried state,
      episode = PlanRun.episode respond plan case carried state := by
  obtain ⟨suite, among, case, active, origin⟩ :=
    PlanRun.exists_of_mem_chapters (List.mem_flatMap.mpr ⟨chapter, member, inside⟩)
  exact ⟨case, List.mem_flatMap.mpr ⟨suite, among, active⟩, origin⟩

/-- What leads up to an episode of a run of a plan. -/
theorem chronicle_split {before behind : List Episode} {found : Episode}
    (split : (plan.chronicle respond fixture token state).flatMap (·.episodes) =
      before ++ found :: behind) :
    ∃ case ∈ plan.cases, ∃ between,
      (PlanState.behind { token, context := plan.context fixture } before).GoesOn between ∧
        found = PlanRun.episode respond plan case between
          (Responder.after respond state (before.flatMap Episode.exchanges)) :=
  PlanRun.chapters_split split

end Plan

end PlatformAudit
