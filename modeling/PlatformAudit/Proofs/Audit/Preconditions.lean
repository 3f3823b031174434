import Mathlib.Data.List.Induction
import PlatformAudit.Protocol.Power.Plan
import PlatformAudit.Proofs.Audit.Chronicle

/-!
# Cases that depend on other cases

A case that uses a precondition runs if the last case that defined one conformed and the platform
said so with success, however many cases were in between.  Any other case that uses one is passed
over: it is counted, and nothing else comes of it.
-/

universe w

namespace PlatformAudit

open Dialogue

def received? : Exchange → Option Response
  | (.command _ _, .ok response) => some response
  | (.command _ _, .error _) | (.await _, _) => none

/-- The last response to a command among some exchanges.  Commands that failed and late messages do
not count. -/
def lastReceived? (exchanges : List Exchange) : Option Response :=
  (exchanges.filterMap received?).getLast?

theorem lastReceived?_append (first second : List Exchange) :
    lastReceived? (first ++ second) = (lastReceived? second).or (lastReceived? first) := by
  rw [lastReceived?, List.filterMap_append, List.getLast?_append]
  rfl

/-- The last of some cases that defined a precondition. -/
def lastDefining? (episodes : List Episode) : Option Episode :=
  (episodes.filter (·.case.precondition = .define)).getLast?

theorem lastDefining?_append (first second : List Episode) :
    lastDefining? (first ++ second) = (lastDefining? second).or (lastDefining? first) := by
  rw [lastDefining?, List.filter_append, List.getLast?_append]
  rfl

/-- The precondition that some cases leave: the outcome of the last one that defined one. -/
def preconditionOf (episodes : List Episode) : Option Precondition :=
  (lastDefining? episodes).map fun defining =>
    { verdict := defining.report.verdict
      status := ((lastReceived? defining.exchanges).map (·.status)).getD unspecifiedStatus }

theorem preconditionOf_append (first second : List Episode) :
    preconditionOf (first ++ second) = (preconditionOf second).or (preconditionOf first) := by
  rw [preconditionOf, lastDefining?_append]
  cases found : lastDefining? second <;> simp [preconditionOf, found]

/-- The last case that defined a precondition conforms, and the last response that it received tells
of success. -/
def MetBy (episodes : List Episode) : Prop :=
  ∃ defining ∈ lastDefining? episodes, defining.report.verdict = .conformant ∧
    ∃ response ∈ lastReceived? defining.exchanges, response.Succeeded

instance (episodes : List Episode) : Decidable (MetBy episodes) :=
  inferInstanceAs (Decidable (∃ _ ∈ lastDefining? episodes, _ ∧ ∃ _ ∈ lastReceived? _, _))

theorem Precondition.obstacle?_eq_none_iff (slot : Option Precondition) :
    Precondition.obstacle? slot = none ↔ ∃ precondition ∈ slot, precondition.IsMet := by
  cases slot <;> simp [Precondition.obstacle?]

/-- Nothing stands in the way of a case that uses a precondition exactly if it is met. -/
theorem obstacle?_preconditionOf (episodes : List Episode) :
    Precondition.obstacle? (preconditionOf episodes) = none ↔ MetBy episodes := by
  have unanswered : unspecifiedStatus ≠ Status.success.code := by decide
  rw [Precondition.obstacle?_eq_none_iff, preconditionOf, MetBy]
  cases lastDefining? episodes with
  | none => simp
  | some defining =>
      cases received : lastReceived? defining.exchanges with
      | none => simp [Precondition.IsMet, received, unanswered]
      | some response => simp [Precondition.IsMet, received, Response.Succeeded]

namespace CaseState

variable (state : CaseState)

/-- Nothing that happens in a case changes the precondition. -/
theorem precondition_after (event : Event) :
    (state.after event).context.precondition = state.context.precondition := by
  rcases event with ⟨_ | _, _ | _⟩ | (_ | ⟨suite, mustRun⟩ | _) | _
  case did.decide =>
    simp only [after, affected, List.foldl_cons, List.foldl_nil, Effect.apply,
      Context.decideSuite_eq]
    split <;> rfl
  all_goals rfl

theorem precondition_replay (events : List Event) :
    (state.replay events).context.precondition = state.context.precondition := by
  induction events generalizing state with
  | nil => rfl
  | cons event rest induction =>
      rw [replay_cons, induction, precondition_after]

theorem lastStatus_after (event : Event) :
    (state.after event).lastStatus =
      ((lastReceived? event.exchange?.toList).map (·.status)).or state.lastStatus := by
  rcases event with ⟨_ | _, _ | _⟩ | _ | _ <;> rfl

theorem lastStatus_replay (events : List Event) :
    (state.replay events).lastStatus =
      ((lastReceived? (Event.exchangesOf events)).map (·.status)).or state.lastStatus := by
  induction events generalizing state with
  | nil => rfl
  | cons event rest induction =>
      have exchanges : Event.exchangesOf (event :: rest) =
          event.exchange?.toList ++ Event.exchangesOf rest := by
        cases event <;> rfl
      rw [replay_cons, induction, lastStatus_after, exchanges, lastReceived?_append]
      cases lastReceived? (Event.exchangesOf rest) <;> rfl

end CaseState

namespace Episode

def Runs {σ : Type w} (respond : Responder σ) (state : σ) (episode : Episode) : Prop :=
  Carries respond (CaseRun.perform? episode.case) episode.start state
    fun exchanges _ finish _ => exchanges = episode.exchanges ∧ finish = episode.finish

/-- Behind a case the precondition is that of the case if it defines one, else what it was. -/
theorem precondition_after {episode : Episode} (fresh : episode.start.lastStatus = none) :
    episode.after.context.precondition =
      (preconditionOf [episode]).or episode.start.context.precondition := by
  have kept : episode.finish.context.precondition = episode.start.context.precondition :=
    episode.start.precondition_replay episode.events
  have remembered : episode.finish.lastStatus =
      (lastReceived? episode.exchanges).map (·.status) := by
    rw [Episode.finish, CaseState.lastStatus_replay, fresh, Option.or_none]
    rfl
  have defining : lastDefining? [episode] =
      if episode.case.precondition = .define then some episode else none := by
    by_cases role : episode.case.precondition = .define <;> simp [lastDefining?, role]
  rw [preconditionOf, defining, Episode.after, PlanRun.settle, remembered]
  cases role : episode.case.precondition with
  | none => exact kept
  | define => rfl
  | use => exact kept

/-- The case is counted as untested and passed over. -/
structure PassedOver (episode : Episode) (plan : Plan) : Prop where
  asks : episode.exchanges = []
  /-- The run goes on as if the case were not there, but for its place in the counters. -/
  after :
    episode.after =
      { token := episode.start.token, context := episode.start.context.recordCase .untested }
  checks :
    ∃ reason,
      episode.report.checks = [{ name := "precondition", outcome := .skip, detail := reason }]
  verdict : episode.report.verdict = .untested
  /-- No hook is called, so that the run is the same with any others. -/
  hooks (other : Plan) (hooks : Hooks) :
    let carried : PlanState := { token := episode.start.token, context := episode.start.context }
    PlanRun.runCase other { episode.case with hooks } carried =
      PlanRun.runCase plan episode.case carried

end Episode

namespace PlanRun

variable {σ : Type w} {respond : Responder σ} {plan : Plan} {case : Case} {carried : PlanState}

theorem episode_runs (free : obstacle? case carried.context = none) (state : σ) :
    (episode respond plan case carried state).Runs respond state := by
  apply (CaseRun.perform?_events case (startOf plan case carried) state).mono
  rintro _ _ _ _ ⟨rfl, rfl⟩
  simp [episode, free, Episode.exchanges, Episode.finish]

theorem use_of_obstacle {reason : String}
    (obstacle : obstacle? case carried.context = some reason) :
    case.precondition = .use := by
  cases role : case.precondition with
  | use => rfl
  | none => simp [obstacle?, role] at obstacle
  | define => simp [obstacle?, role] at obstacle

/-- What comes of a case that is passed over, and what is written about it. -/
theorem runCase_of_obstacle (plan : Plan) {reason : String}
    (obstacle : obstacle? case carried.context = some reason) :
    runCase plan case carried =
      .say (caseLine case)
        (.say ("      precondition " ++ Verdict.skip.label ++ " " ++ reason)
          (.say ("      => " ++ Verdict.untested.label)
            (.done
              (reportOf case [obstacleCheck reason],
                { carried with context := settle case .untested none carried.context })))) := by
  have guarded : runGuarded plan case carried =
      .say ("      precondition " ++ Verdict.skip.label ++ " " ++ reason)
        (.done (([obstacleCheck reason], none), carried)) := by
    simp only [runGuarded, Bind.bind, StateT.bind, get, getThe, MonadStateOf.get, StateT.get,
      Pure.pure, Dialogue.bind, obstacle]
    rfl
  change Dialogue.say (caseLine case) ((runGuarded plan case carried).bind _) = _
  rw [guarded]
  rfl

theorem episode_passedOver {reason : String}
    (obstacle : obstacle? case carried.context = some reason) (state : σ) :
    (episode respond plan case carried state).PassedOver plan := by
  have events : (episode respond plan case carried state).events =
      Event.notes [obstacleCheck reason] := by
    simp [episode, obstacle]
  have finish : (episode respond plan case carried state).finish =
      (startOf plan case carried).noted [obstacleCheck reason] := by
    rw [Episode.finish, events, CaseState.replay_notes]
    rfl
  have verdict : (episode respond plan case carried state).report.verdict = .untested := by
    rw [Episode.report, finish]
    rfl
  refine
    { asks := by rw [Episode.exchanges, events, Event.exchangesOf_notes]
      after := ?after
      checks := ⟨reason, by rw [Episode.report, finish]; rfl⟩
      verdict
      hooks := ?hooks }
  case after =>
    rw [Episode.after, verdict, finish]
    have settled (context : Context) : settle case .untested none context =
        context.recordCase .untested := by
      simp [settle, use_of_obstacle obstacle]
    exact congrArg (PlanState.mk carried.token) (settled carried.context)
  case hooks =>
    intro other hooks _
    have same : obstacle? { case with hooks } carried.context = some reason := obstacle
    exact (runCase_of_obstacle other same).trans (runCase_of_obstacle plan obstacle).symm

end PlanRun

namespace Plan

variable {σ : Type w} (respond : Responder σ) (plan : Plan) (fixture : Option Fixture)
  (token : UInt16)
  (state : σ)

/-- Behind each case of a run the precondition is the one that the cases so far leave. -/
theorem precondition_behind {before behind : List Episode}
    (split : (plan.chronicle respond fixture token state).flatMap (·.episodes) = before ++ behind) :
    (PlanState.behind { token, context := plan.context fixture } before).context.precondition =
      preconditionOf before := by
  induction before using List.reverseRecOn generalizing behind with
  | nil => rfl
  | append_singleton before last induction =>
      rw [List.append_assoc] at split
      have earlier := induction split
      obtain ⟨case, -, between, goesOn, origin⟩ :=
        plan.chronicle_split respond fixture token state split
      have fresh : last.start.lastStatus = none := by
        rw [origin]
        rfl
      have begins : last.start.context.precondition = preconditionOf before := by
        rw [← earlier, ← goesOn.precondition_eq, origin]
        rfl
      rw [PlanState.behind_append, preconditionOf_append, ← begins]
      exact Episode.precondition_after fresh

/-- The cases of a run that use a precondition heed it.  The cases that have their turn are those of
the suites that run, up to the closing ones.  One that uses a precondition runs if the last one
before it that defined one conforms and was told of success in the end; otherwise it is passed
over. -/
theorem run_heeds_preconditions (journal : Journal) :
    let run := plan.runFrom fixture token
    let chronicle := plan.chronicle respond fixture token state
    run.transcript respond state = chronicle.flatMap Chapter.exchanges ∧
      (run.run respond state journal).value.1.suites = chronicle.map Chapter.report ∧
      (∀ chapter ∈ chronicle,
        chapter.episodes.map (·.case) = if chapter.runs then chapter.suite.active else []) ∧
      ∀ before episode behind, chronicle.flatMap (·.episodes) = before ++ episode :: behind →
        (PlanState.behind { token, context := plan.context fixture } before).GoesOn
            { token := episode.start.token, context := episode.start.context } ∧
          episode.start.context.precondition = preconditionOf before ∧
          if episode.case.precondition = .use ∧ ¬MetBy before then episode.PassedOver plan
          else
            episode.Runs respond
              (Responder.after respond state (before.flatMap Episode.exchanges)) := by
  intro run chronicle
  refine ⟨plan.transcript_run respond fixture token state,
    plan.suites_run respond fixture token state journal,
    plan.cases_chronicle respond fixture token state, ?_⟩
  intro before episode behind split
  obtain ⟨case, -, between, goesOn, rfl⟩ :=
    plan.chronicle_split respond fixture token state split
  have slot : between.context.precondition = preconditionOf before := by
    rw [goesOn.precondition_eq]
    exact plan.precondition_behind respond fixture token state split
  have free_iff : PlanRun.obstacle? case between.context = none ↔
      ¬(case.precondition = .use ∧ ¬MetBy before) := by
    cases role : case.precondition with
    | none => simp [PlanRun.obstacle?, role]
    | define => simp [PlanRun.obstacle?, role]
    | use => simp [PlanRun.obstacle?, role, slot, obstacle?_preconditionOf]
  refine ⟨goesOn, slot, ?_⟩
  change if case.precondition = .use ∧ ¬MetBy before then _ else _
  by_cases unmet : case.precondition = .use ∧ ¬MetBy before
  · rw [if_pos unmet]
    cases obstacle : PlanRun.obstacle? case between.context with
    | none => exact absurd unmet (free_iff.mp obstacle)
    | some reason => exact PlanRun.episode_passedOver obstacle _
  · rw [if_neg unmet]
    exact PlanRun.episode_runs (free_iff.mpr unmet) _

/-- A platform that never answers is not asked for the state that it should have set: the case that
sets it does not conform. -/
theorem run_on_silence_heeds_preconditions :
    let respond : Responder Unit := fun _ _ => (.error (.silence 10), ())
    let episodes := (Power.plan.chronicle respond none 0 ()).flatMap (·.episodes)
    ∃ before episode behind, episodes = before ++ episode :: behind ∧
      episode.case.id = "power.state_get" ∧ episode.PassedOver Power.plan := by
  intro respond episodes
  obtain ⟨-, -, -, heeds⟩ :=
    run_heeds_preconditions respond Power.plan none 0 () { sink := .nowhere }
  have place : episodes[8]?.map (fun episode => (episode.case.id, episode.case.precondition)) =
      some ("power.state_get", .use) := by decide +kernel
  have unmet : ¬MetBy (episodes.take 8) := by decide +kernel
  change ∀ before episode behind, episodes = before ++ episode :: behind → _ at heeds
  clear_value episodes
  obtain ⟨episode, found, named⟩ := Option.map_eq_some_iff.mp place
  obtain ⟨id, role⟩ := Prod.mk.inj named
  obtain ⟨inside, rfl⟩ := List.getElem?_eq_some_iff.mp found
  have split : episodes = episodes.take 8 ++ episodes[8] :: episodes.drop 9 := by
    rw [List.cons_getElem_drop_succ, List.take_append_drop]
  have heeded := (heeds _ _ _ split).2.2
  rw [if_pos ⟨role, unmet⟩] at heeded
  exact ⟨_, _, _, split, id, heeded⟩

end Plan

end PlatformAudit
