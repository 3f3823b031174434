import PlatformAudit.Protocol.Base.Plan
import PlatformAudit.Proofs.Audit.Chronicle

/-!
# Leaving suites out

Cases call for decisions about suites while a plan runs.  A decision is accepted only as long as the
run has not reached its suite, so the last call that came in time decides whether the suite runs,
and no call can change what was decided of a suite that has had its turn.
-/

universe w

namespace PlatformAudit

open Dialogue

/-- A call for a decision about a suite, and the context in which it is made. -/
structure DecisionCall where
  context : Context
  suite : Nat
  mustRun : Bool

namespace DecisionCall

variable (call : DecisionCall)

def reached : Nat :=
  call.context.cursor.suite

def accepted : Bool :=
  (call.context.answerDecision call.suite call.mustRun).1

def outcome : Context :=
  (call.context.answerDecision call.suite call.mustRun).2

theorem accepted_iff : call.accepted = true ↔ call.context.AcceptsDecision call.suite := by
  unfold accepted
  by_cases accepts : call.context.AcceptsDecision call.suite
  · simp [Context.answerDecision_of_accepts accepts, accepts]
  · simp [Context.answerDecision_of_not_accepts accepts, accepts]

theorem outcome_of_declined (declined : call.accepted = false) : call.outcome = call.context := by
  have declines : ¬ call.context.AcceptsDecision call.suite := by
    rw [← accepted_iff, declined]
    exact Bool.false_ne_true
  rw [outcome, Context.answerDecision_of_not_accepts declines]

def ComesInTime (suite : Nat) : Prop :=
  call.suite = suite ∧ call.reached < suite

instance (suite : Nat) : Decidable (call.ComesInTime suite) :=
  inferInstanceAs (Decidable (_ ∧ _))

/-- What the last call about a suite says that was made before the run reached the suite. -/
def lastInTime? (calls : List DecisionCall) (suite : Nat) : Option Bool :=
  ((calls.filter fun call => call.ComesInTime suite).getLast?).map (·.mustRun)

theorem lastInTime?_append (first second : List DecisionCall) (suite : Nat) :
    lastInTime? (first ++ second) suite =
      (lastInTime? second suite).or (lastInTime? first suite) := by
  unfold lastInTime?
  rw [List.filter_append, List.getLast?_append]
  cases (second.filter fun call => call.ComesInTime suite).getLast? <;> rfl

theorem lastInTime?_singleton (suite : Nat) :
    lastInTime? [call] suite = if call.ComesInTime suite then some call.mustRun else none := by
  unfold lastInTime?
  split <;> rename_i inTime <;> simp [inTime]

/-- Calls that come too late for a suite say nothing about it. -/
theorem lastInTime?_eq_none {calls : List DecisionCall} {suite : Nat}
    (late : ∀ call ∈ calls, suite ≤ call.reached) : lastInTime? calls suite = none := by
  have noneInTime : (calls.filter fun call => call.ComesInTime suite) = [] := by
    apply List.filter_eq_nil_iff.mpr
    intro call member inTime
    have before : call.reached < suite := (of_decide_eq_true inTime).2
    exact absurd (late call member) (Nat.not_le.mpr before)
  rw [lastInTime?, noneInTime]
  rfl

end DecisionCall

def Event.call? (context : Context) : Event → Option DecisionCall
  | did (.decide suite mustRun) => some (.mk context suite mustRun)
  | did (.check _) | did (.discover _) | asked _ _ | expected _ => none

def CaseState.calls (state : CaseState) : List Event → List DecisionCall
  | [] => []
  | event :: rest => (event.call? state.context).toList ++ (state.after event).calls rest

def Episode.calls (episode : Episode) : List DecisionCall :=
  episode.start.calls episode.events

def Chapter.calls (chapter : Chapter) : List DecisionCall :=
  chapter.episodes.flatMap Episode.calls

namespace Context

/-- The run of a plan has reached the suite of the given position. -/
structure Reaches (context : Context) (plan : Plan) (position : Nat) : Prop where
  suiteNames : context.suiteNames = plan.suites.map (·.name)
  discoverySuite : context.discoverySuite = plan.discoverySuite
  cursor : context.cursor.suite = position
  begun : context.phase ≠ .setup

/-- Besides, exactly those suites are to be left out of which the last call in time says so. -/
structure Heeds (context : Context) (plan : Plan) (position : Nat) (calls : List DecisionCall) :
    Prop extends context.Reaches plan position where
  isSkipped_iff :
    ∀ suite, suite ≠ plan.discoverySuite → suite < plan.suites.length →
      (context.isSkipped suite = true ↔ DecisionCall.lastInTime? calls suite = some false)

theorem isSkipped_decideSuite (context : Context) (suite other : Nat) (mustRun : Bool) :
    (context.decideSuite suite mustRun).isSkipped other =
      if context.AcceptsDecision suite ∧ suite = other then !mustRun
      else context.isSkipped other := by
  rw [decideSuite_eq]
  by_cases accepts : context.AcceptsDecision suite
  · rw [if_pos accepts]
    by_cases same : suite = other
    · subst same
      simp [isSkipped, accepts]
    · simp [isSkipped, same]
  · rw [if_neg accepts, if_neg fun both => accepts both.1]

namespace Reaches

variable {context : Context} {plan : Plan} {position : Nat}

/-- Which decisions are accepted once a suite has been reached. -/
theorem acceptsDecision_iff (reaches : context.Reaches plan position) (suite : Nat) :
    context.AcceptsDecision suite ↔
      suite ≠ plan.discoverySuite ∧ suite < plan.suites.length ∧ position < suite := by
  simp only [AcceptsDecision, reaches.suiteNames, reaches.discoverySuite, reaches.cursor,
    reaches.begun, List.length_map, or_false]

theorem decideSuite (reaches : context.Reaches plan position) (suite : Nat) (mustRun : Bool) :
    (context.decideSuite suite mustRun).Reaches plan position := by
  rw [Context.decideSuite_eq]
  split
  · exact ⟨reaches.suiteNames, reaches.discoverySuite, reaches.cursor, reaches.begun⟩
  · exact reaches

end Reaches

namespace Heeds

variable {context : Context} {plan : Plan} {position : Nat} {calls : List DecisionCall}

theorem congr (heeds : context.Heeds plan position calls) {other : Context}
    (reaches : other.Reaches plan position) (decisions : other.decisions = context.decisions) :
    other.Heeds plan position calls where
  toReaches := reaches
  isSkipped_iff suite optional known := by
    have same : other.isSkipped suite = context.isSkipped suite := by
      simp only [isSkipped, decisions]
    rw [same]
    exact heeds.isSkipped_iff suite optional known

theorem discover (heeds : context.Heeds plan position calls) (edit : Discovery.Edit) :
    (context.discover edit).Heeds plan position calls :=
  heeds.congr ⟨heeds.suiteNames, heeds.discoverySuite, heeds.cursor, heeds.begun⟩ rfl

theorem enterCase (heeds : context.Heeds plan position calls) (case : Nat) :
    (context.enterCase case).Heeds plan position calls :=
  heeds.congr ⟨heeds.suiteNames, heeds.discoverySuite, heeds.cursor, Phase.noConfusion⟩ rfl

theorem settle (heeds : context.Heeds plan position calls) (case : Case) (verdict : Verdict)
    (status : Option Int32) :
    (PlanRun.settle case verdict status context).Heeds plan position calls := by
  unfold PlanRun.settle
  cases case.precondition <;>
    exact heeds.congr ⟨heeds.suiteNames, heeds.discoverySuite, heeds.cursor, heeds.begun⟩ rfl

theorem finishSuite (heeds : context.Heeds plan position calls) :
    context.finishSuite.Heeds plan position calls :=
  heeds.congr ⟨heeds.suiteNames, heeds.discoverySuite, heeds.cursor, Phase.noConfusion⟩ rfl

theorem recordSkippedSuite (heeds : context.Heeds plan position calls) :
    context.recordSkippedSuite.Heeds plan position calls :=
  heeds.congr ⟨heeds.suiteNames, heeds.discoverySuite, heeds.cursor, heeds.begun⟩ rfl

theorem enterSuite (heeds : context.Heeds plan position calls) (next : Nat) :
    (context.enterSuite next).Heeds plan next calls where
  suiteNames := heeds.suiteNames
  discoverySuite := heeds.discoverySuite
  cursor := rfl
  begun := Phase.noConfusion
  isSkipped_iff := heeds.isSkipped_iff

theorem decideSuite (heeds : context.Heeds plan position calls) (suite : Nat) (mustRun : Bool) :
    (context.decideSuite suite mustRun).Heeds plan position
      (calls ++ [.mk context suite mustRun]) where
  toReaches := heeds.toReaches.decideSuite suite mustRun
  isSkipped_iff other optional known := by
    have inTime_iff :
        (DecisionCall.mk context suite mustRun).ComesInTime other ↔
          context.AcceptsDecision suite ∧ suite = other := by
      unfold DecisionCall.ComesInTime DecisionCall.reached
      rw [heeds.acceptsDecision_iff, heeds.cursor]
      constructor
      · rintro ⟨rfl, before⟩
        exact ⟨⟨optional, known, before⟩, rfl⟩
      · rintro ⟨⟨-, -, before⟩, rfl⟩
        exact ⟨rfl, before⟩
    rw [isSkipped_decideSuite, DecisionCall.lastInTime?_append, DecisionCall.lastInTime?_singleton]
    by_cases accepted : context.AcceptsDecision suite ∧ suite = other
    · rw [if_pos accepted, if_pos (inTime_iff.mpr accepted)]
      simp
    · rw [if_neg accepted, if_neg (mt inTime_iff.mp accepted)]
      exact heeds.isSkipped_iff other optional known

/-- A suite runs unless it may be left out and the last call in time says so. -/
theorem mustRun_eq_false_iff (heeds : context.Heeds plan position calls) {suite : Nat}
    (known : suite < plan.suites.length) :
    context.mustRun suite = false ↔
      suite ≠ plan.discoverySuite ∧ DecisionCall.lastInTime? calls suite = some false := by
  have optional_iff : context.mustRun suite = false ↔
      suite ≠ plan.discoverySuite ∧ context.isSkipped suite = true := by
    simp [mustRun, heeds.discoverySuite]
  rw [optional_iff]
  exact and_congr_right fun optional => heeds.isSkipped_iff suite optional known

end Heeds

end Context

namespace CaseState

variable {state : CaseState} {plan : Plan} {position : Nat} {calls : List DecisionCall}

/-- An event is heeded if it calls for a decision, and does not move the run on. -/
theorem heeds_after (heeds : state.context.Heeds plan position calls) (event : Event) :
    (state.after event).context.Heeds plan position
      (calls ++ (event.call? state.context).toList) := by
  rcases event with ⟨_ | _, _ | _⟩ | (_ | ⟨suite, mustRun⟩ | edit) | _
  case did.decide => exact heeds.decideSuite suite mustRun
  case did.discover =>
    simp only [Event.call?, Option.toList_none, List.append_nil]
    exact heeds.discover edit
  all_goals
    simp only [Event.call?, Option.toList_none, List.append_nil]
    exact heeds

/-- What holds of one event holds of all events of a case, one after the other. -/
theorem heeds_replay (heeds : state.context.Heeds plan position calls) (events : List Event) :
    (state.replay events).context.Heeds plan position (calls ++ state.calls events) ∧
      ∀ call ∈ state.calls events, call.context.Reaches plan position := by
  induction events generalizing state calls with
  | nil => exact ⟨by simpa [CaseState.calls] using heeds, by simp [CaseState.calls]⟩
  | cons event rest induction =>
      obtain ⟨heedsLast, made⟩ := induction (heeds_after heeds event)
      refine ⟨by simpa [CaseState.calls] using heedsLast, ?_⟩
      intro call member
      rcases List.mem_append.mp member with now | later
      · have context : call.context = state.context := by
          rcases event with _ | (_ | ⟨suite, mustRun⟩ | _) | _ <;> simp [Event.call?] at now
          rw [now]
        rw [context]
        exact heeds.toReaches
      · exact made call later

end CaseState

/-- A chapter at the given position of a plan in the run of which the given calls are made. -/
structure Chapter.Heeds (chapter : Chapter) (plan : Plan) (position : Nat)
    (calls : List DecisionCall) : Prop where
  runs_iff :
    chapter.runs = false ↔
      position ≠ plan.discoverySuite ∧ DecisionCall.lastInTime? calls position = some false
  reaches : ∀ call ∈ chapter.calls, call.context.Reaches plan position

theorem Chapter.le_reached {chapters : List Chapter} {plan : Plan} {position : Nat}
    {calls : List DecisionCall}
    (heeds : ∀ (index : Nat) (chapter : Chapter), chapters[index]? = some chapter →
      chapter.Heeds plan (position + index) calls) :
    ∀ call ∈ chapters.flatMap Chapter.calls, position ≤ call.reached := by
  intro call member
  obtain ⟨chapter, inside, called⟩ := List.mem_flatMap.mp member
  obtain ⟨index, found⟩ := List.mem_iff_getElem?.mp inside
  have reached : call.reached = position + index :=
    ((heeds index chapter found).reaches call called).cursor
  rw [reached]
  exact Nat.le_add_right position index

namespace PlanRun

variable {σ : Type w} (respond : Responder σ) {plan : Plan} {position : Nat}
  {calls : List DecisionCall}

theorem heeds_episode (carried : PlanState)
    (heeds : carried.context.Heeds plan position calls) (case : Case) (state : σ) :
    let episode := episode respond plan case carried state
    episode.after.context.Heeds plan position (calls ++ episode.calls) ∧
      ∀ call ∈ episode.calls, call.context.Reaches plan position := by
  intro episode
  have heedsStart : episode.start.context.Heeds plan position calls := heeds
  obtain ⟨heedsLast, made⟩ := CaseState.heeds_replay heedsStart episode.events
  exact ⟨heedsLast.settle _ _ _, made⟩

theorem heeds_episodes (carried : PlanState)
    (heeds : carried.context.Heeds plan position calls) (cases : List Case) (first : Nat)
    (state : σ) :
    let episodes := episodes respond plan cases first carried state
    (carried.behind episodes).context.Heeds plan position
        (calls ++ episodes.flatMap Episode.calls) ∧
      ∀ call ∈ episodes.flatMap Episode.calls, call.context.Reaches plan position := by
  induction cases generalizing first carried state calls with
  | nil => simpa [episodes] using heeds
  | cons case rest induction =>
      obtain ⟨heedsNext, made⟩ :=
        heeds_episode respond { carried with context := carried.context.enterCase first }
          (heeds.enterCase first) case state
      obtain ⟨heedsLast, others⟩ :=
        induction _ heedsNext (first + 1) (Responder.after respond state _)
      refine ⟨by simpa [episodes] using heedsLast, ?_⟩
      simp only [episodes, List.flatMap_cons, List.forall_mem_append]
      exact ⟨made, others⟩

/-- A suite that is left out makes no calls, and any other makes those of its cases. -/
theorem heeds_chapter (carried : PlanState)
    (heeds : (carried.context.enterSuite position).Heeds plan position calls)
    (suite : Suite) (state : σ) :
    let chapter := chapter respond plan suite position carried state
    chapter.after.context.Heeds plan position (calls ++ chapter.calls) ∧
      ∀ call ∈ chapter.calls, call.context.Reaches plan position := by
  cases runs : (carried.context.enterSuite position).mustRun position with
  | true =>
      obtain ⟨heedsLast, made⟩ :=
        heeds_episodes respond { carried with context := carried.context.enterSuite position }
          heeds suite.active 0 state
      simp only [chapter, runs, if_true, Chapter.after, Chapter.calls]
      exact ⟨heedsLast.finishSuite, made⟩
  | false =>
      simp only [chapter, runs, Chapter.after, Chapter.calls, List.flatMap_nil, List.append_nil,
        PlanState.behind, List.foldl_nil, Bool.false_eq_true, if_false]
      exact ⟨heeds.recordSkippedSuite.finishSuite, by simp⟩

/-- Every suite heeds the calls that came in time.  Those that are made from its turn on come too
late for it, so it does not matter whether they are counted. -/
theorem heeds_chapters (carried : PlanState)
    (heeds : (carried.context.enterSuite position).Heeds plan position calls)
    {suites : List Suite} (known : position + suites.length ≤ plan.suites.length) (state : σ) :
    ∀ (index : Nat) (chapter : Chapter),
      (chapters respond plan suites position carried state)[index]? = some chapter →
        chapter.Heeds plan (position + index)
          (calls ++ (chapters respond plan suites position carried state).flatMap
            Chapter.calls) := by
  induction suites generalizing position carried state calls with
  | nil => simp [chapters]
  | cons suite rest induction =>
      intro index chapter found
      rw [List.length_cons] at known
      obtain ⟨heedsNext, made⟩ := heeds_chapter respond carried heeds suite state
      have others := induction _ (heedsNext.enterSuite (position + 1)) (by omega)
        (Responder.after respond state
          (PlanRun.chapter respond plan suite position carried state).exchanges)
      simp only [chapters] at found ⊢
      generalize ofSuite : PlanRun.chapter respond plan suite position carried state = first at *
      generalize chapters respond plan rest (position + 1) first.after _ = behind at *
      rw [List.flatMap_cons]
      cases index with
      | succ index =>
          have ofRest := others index chapter (List.getElem?_cons_succ ▸ found)
          rwa [List.append_assoc, Nat.add_assoc, Nat.add_comm 1 index] at ofRest
      | zero =>
          obtain rfl : first = chapter := Option.some.inj found
          have late : ∀ call ∈ first.calls ++ behind.flatMap Chapter.calls,
              position ≤ call.reached := by
            refine List.forall_mem_append.mpr ⟨fun call member => ?_, fun call member => ?_⟩
            · exact Nat.le_of_eq (made call member).cursor.symm
            · exact Nat.le_of_succ_le (Chapter.le_reached others call member)
          refine ⟨?_, made⟩
          rw [Nat.add_zero, DecisionCall.lastInTime?_append, DecisionCall.lastInTime?_eq_none late,
            Option.none_or, ← heeds.mustRun_eq_false_iff (by omega), ← ofSuite]
          rfl

end PlanRun

theorem Suite.cases_eq_active_append (suite : Suite) :
    ∃ behind, suite.cases = suite.active ++ behind ∧
      (∀ case ∈ suite.active, case.id ≠ Case.closingId) ∧
      ∀ case ∈ behind.head?, case.id = Case.closingId := by
  refine ⟨suite.cases.dropWhile (!·.isClosing), List.takeWhile_append_dropWhile.symm, ?_, ?_⟩
  · intro case member
    simpa [Case.isClosing] using List.all_eq_true.mp List.all_takeWhile case member
  · intro case first
    have closing := List.head?_dropWhile_not (!·.isClosing) suite.cases
    rw [Option.mem_def.mp first] at closing
    simpa [Case.isClosing] using closing

/-- How a suite of a plan is reported that had its turn in a chapter.  The given calls are those of
the whole run. -/
structure Chapter.Fits (chapter : Chapter) (plan : Plan) (position : Nat)
    (calls : List DecisionCall) (reported : SuiteReport) : Prop where
  suite : plan.suites[position]? = some chapter.suite
  name : reported.name = chapter.suite.name
  /-- A suite other than the discovery suite is left out if the last call in time says so. -/
  skipped_iff :
    reported.skipped = true ↔
      position ≠ plan.discoverySuite ∧ DecisionCall.lastInTime? calls position = some false
  /-- Of a suite that is left out nothing is reported, and nothing is asked for it. -/
  left_out : reported.skipped = true → reported.cases = [] ∧ chapter.exchanges = []
  /-- Of any other suite the cases up to the first closing one run, in order and once each. -/
  ran :
    reported.skipped = false →
      ∃ ahead behind, chapter.suite.cases = ahead ++ behind ∧
        (∀ case ∈ ahead, case.id ≠ Case.closingId) ∧
        (∀ case ∈ behind.head?, case.id = Case.closingId) ∧
        chapter.episodes.map (·.case) = ahead ∧
        reported.cases.map (fun report => (report.id, report.message)) =
          ahead.map fun case => (case.id, case.message)
  /-- Calls are made while the run has reached the suite of the case that makes them. -/
  reached : ∀ call ∈ chapter.calls, call.reached = position

namespace Plan

variable {σ : Type w} (respond : Responder σ) (plan : Plan) (fixture : Option Fixture)
  (token : UInt16)
  (state : σ)

theorem heeds_start : ((plan.context fixture).enterSuite 0).Heeds plan 0 [] where
  suiteNames := rfl
  discoverySuite := rfl
  cursor := rfl
  begun := Phase.noConfusion
  isSkipped_iff suite _ _ := by simp [Context.isSkipped, Context.enterSuite, Plan.context,
    Context.setUp, DecisionCall.lastInTime?]

/-- The calls for decisions in a run of a plan. -/
def calls : List DecisionCall :=
  (plan.chronicle respond fixture token state).flatMap Chapter.calls

theorem heeds_chronicle {position : Nat} {chapter : Chapter}
    (found : (plan.chronicle respond fixture token state)[position]? = some chapter) :
    chapter.Heeds plan position (plan.calls respond fixture token state) := by
  have heeds := PlanRun.heeds_chapters respond { token, context := plan.context fixture }
    (plan.heeds_start fixture) (by simp) state position chapter found
  rwa [Nat.zero_add] at heeds

theorem fits_chronicle {position : Nat} {chapter : Chapter}
    (found : (plan.chronicle respond fixture token state)[position]? = some chapter) :
    chapter.Fits plan position (plan.calls respond fixture token state) chapter.report := by
  have heeds := plan.heeds_chronicle respond fixture token state found
  have cases_eq :=
    plan.cases_chronicle respond fixture token state chapter (List.mem_of_getElem? found)
  refine
    { suite := ?suite
      name := chapter.name_report
      skipped_iff := ?skipped_iff
      left_out := ?left_out
      ran := ?ran
      reached := fun call member => (heeds.reaches call member).cursor }
  case suite =>
    rw [← plan.suites_chronicle respond fixture token state, List.getElem?_map, found]
    rfl
  case skipped_iff =>
    rw [chapter.skipped_report, Bool.not_eq_true', heeds.runs_iff]
  case left_out =>
    intro skipped
    have out : chapter.runs = false := by simpa [chapter.skipped_report] using skipped
    have noCases : chapter.episodes = [] := by simpa [out] using cases_eq
    exact ⟨by simp [chapter.cases_report, out], by simp [Chapter.exchanges, noCases]⟩
  case ran =>
    intro notSkipped
    have runs : chapter.runs = true := by simpa [chapter.skipped_report] using notSkipped
    rw [runs, if_pos rfl] at cases_eq
    obtain ⟨behind, split, notClosing, closing⟩ := chapter.suite.cases_eq_active_append
    refine ⟨chapter.suite.active, behind, split, notClosing, closing, cases_eq, ?_⟩
    rw [chapter.cases_report, runs, if_pos rfl, ← cases_eq, List.map_map, List.map_map]
    rfl

/-- What becomes of the suites of a plan.  All of them are reported, in order.  The calls for
decisions say which of them are left out, whatever the cases do and whatever the platform answers.
A call about the discovery suite, about an unknown suite or about one that has had its turn is
declined and changes nothing. -/
theorem run_heeds_decisions (journal : Journal) :
    let run := plan.runFrom fixture token
    let report := (run.run respond state journal).value.1
    let chronicle := plan.chronicle respond fixture token state
    let calls := plan.calls respond fixture token state
    run.transcript respond state = chronicle.flatMap Chapter.exchanges ∧
      chronicle.map (·.suite) = plan.suites ∧
      report.suites.map (·.name) = plan.suites.map (·.name) ∧
      (∀ (position : Nat) (chapter : Chapter) (reported : SuiteReport),
        chronicle[position]? = some chapter → report.suites[position]? = some reported →
          chapter.Fits plan position calls reported) ∧
      ∀ call ∈ calls,
        (call.accepted = true ↔
          call.suite ≠ plan.discoverySuite ∧ call.suite < plan.suites.length ∧
            call.reached < call.suite) ∧
          (call.accepted = false → call.outcome = call.context) := by
  intro run report chronicle calls
  have reported_eq : report.suites = chronicle.map Chapter.report :=
    plan.suites_run respond fixture token state journal
  have suites_eq : chronicle.map (·.suite) = plan.suites :=
    plan.suites_chronicle respond fixture token state
  refine ⟨plan.transcript_run respond fixture token state, suites_eq, ?_, ?_, ?_⟩
  · rw [reported_eq, ← suites_eq, List.map_map, List.map_map]
    exact List.map_congr_left fun chapter _ => chapter.name_report
  · intro position chapter reported found place
    rw [reported_eq, List.getElem?_map, found] at place
    obtain rfl : chapter.report = reported := Option.some.inj place
    exact plan.fits_chronicle respond fixture token state found
  · intro call member
    obtain ⟨chapter, inside, called⟩ := List.mem_flatMap.mp member
    obtain ⟨position, found⟩ := List.mem_iff_getElem?.mp inside
    have reaches :=
      (plan.heeds_chronicle respond fixture token state found).reaches call called
    constructor
    · rw [call.accepted_iff, reaches.acceptsDecision_iff, DecisionCall.reached, reaches.cursor]
    · exact call.outcome_of_declined

/-- A platform that never answers is not asked for the optional command: the last call about its
suite comes in time and leaves it out. -/
theorem run_on_silence_heeds_decisions :
    let respond : Responder Unit := fun _ _ => (.error (.silence 10), ())
    let report := ((Base.plan.runFrom none 0).run respond () { sink := .nowhere }).value.1
    ∃ reported, report.suites[3]? = some reported ∧ reported.skipped = true ∧
      DecisionCall.lastInTime? (Base.plan.calls respond none 0 ()) 3 = some false := by
  intro respond report
  obtain ⟨-, suites, -, fits, -⟩ :=
    run_heeds_decisions respond Base.plan none 0 () { sink := .nowhere }
  have leftOut : report.suites[3]?.map (·.skipped) = some true := by decide +kernel
  obtain ⟨reported, place, skipped⟩ := Option.map_eq_some_iff.mp leftOut
  have four : (Base.plan.chronicle respond none 0 ()).length = 4 := by
    rw [← List.length_map (·.suite), suites]
    rfl
  have chapter := fits 3 _ reported (List.getElem?_eq_getElem (by omega)) place
  exact ⟨reported, place, skipped, (chapter.skipped_iff.mp skipped).2⟩

end Plan

end PlatformAudit
