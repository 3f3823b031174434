import PlatformAudit.Proofs.Audit.Findings

/-!
# Announcements

An early case of a plan asks what there is, and what its answer announces is kept for later cases.
As no other case touches it, each of them begins with what was announced, wherever it stands in the
plan and whatever happened in between.
-/

universe w

namespace PlatformAudit

/-- What an answer announces: the first word of a success. -/
def announcement? : Answer → Option UInt32
  | .ok response => if response.Succeeded then response.word? 0 else none
  | .error _ => none

/-- A plan with a case that asks what there is, among the first suite that is never left out. -/
structure Announcing where
  plan : Plan
  opening : Suite
  rest : List Suite
  early : List Case
  /-- The case that asks. -/
  source : Case
  late : List Case
  /-- The names of what is kept of the answer. -/
  names : List String
  suites_eq : plan.suites = opening :: rest
  discoverySuite_eq : plan.discoverySuite = 0
  active_eq : opening.active = early ++ source :: late
  /-- What is kept of the answer. -/
  keeps : Response → List Effect
  fixed : source.IsFixed keeps
  sends (context : Context) : CaseRun.fixedParameters source context = .ok []
  distinct : (plan.cases.map (·.id)).Nodup
  within : ∀ case ∈ plan.cases, case.id ≠ source.id → case.Within (.sparing names)

namespace Announcing

variable (announcing : Announcing) {σ : Type w} (respond : Responder σ) (fixture : Option Fixture)
  (token : UInt16) (state : σ)

def others : List Case :=
  announcing.late ++ announcing.rest.flatMap Suite.active

theorem cases_eq :
    announcing.plan.cases = announcing.early ++ announcing.source :: announcing.others := by
  rw [Plan.cases, announcing.suites_eq, List.flatMap_cons, announcing.active_eq, others,
    List.append_assoc, List.cons_append]

theorem spared {case : Case} (other : case ∈ announcing.early ∨ case ∈ announcing.others) :
    case.id ≠ announcing.source.id ∧ case.Within (.sparing announcing.names) := by
  have distinct := announcing.distinct
  rw [cases_eq, List.map_append, List.map_cons] at distinct
  have apart : case.id ≠ announcing.source.id := by
    rcases other with early | late
    · exact (List.nodup_append.mp distinct).2.2 _ (List.mem_map_of_mem early) _
        (List.mem_cons_self ..)
    · have behind := (List.nodup_cons.mp (List.nodup_append.mp distinct).2.1).1
      exact fun same => behind (same ▸ List.mem_map_of_mem late)
  refine ⟨apart, announcing.within case ?_ apart⟩
  rw [cases_eq]
  rcases other with early | late
  · exact List.mem_append_left _ early
  · exact List.mem_append_right _ (List.mem_cons_of_mem _ late)

def turns : List Episode :=
  announcing.plan.turns respond fixture token state

/-- The turn of the case that asks, with the turns before and behind it. -/
structure Announces (before : List Episode) (turn : Episode) (others : List Episode)
    (answer : Answer) : Prop where
  split : announcing.turns respond fixture token state = before ++ turn :: others
  ofEarly : before.map (·.case) = announcing.early
  ofSource : turn.case = announcing.source
  ofOthers : ∀ found ∈ others, found.case ∈ announcing.others
  exchanges : turn.exchanges =
    [(.command (CaseRun.nextHeader announcing.source announcing.source.message turn.start.token) [],
      answer)]
  /-- The answer is that of whoever has been asked what the turns before have asked. -/
  answered : answer =
    (respond (Responder.after respond state (before.flatMap Episode.exchanges))
      (.command (CaseRun.nextHeader announcing.source announcing.source.message turn.start.token)
        [])).1
  /-- Nothing has been found before. -/
  fresh : (announcing.plan.context fixture).Agree announcing.names turn.start.context
  /-- All cases behind begin with what is kept of the answer. -/
  reaches : ∀ found ∈ others,
    (CaseRun.learned announcing.keeps turn.start.context answer).Agree announcing.names
      found.start.context

theorem announces : ∃ before turn others answer,
    announcing.Announces respond fixture token state before turn others answer := by
  obtain ⟨before, turn, others, split, ofEarly, ofSource, ofOthers⟩ :=
    Plan.turns_around respond fixture token state announcing.suites_eq
      announcing.discoverySuite_eq announcing.active_eq
  have fixed : turn.case.IsFixed announcing.keeps := ofSource ▸ announcing.fixed
  have parameters : CaseRun.fixedParameters turn.case turn.carried.context = .ok [] :=
    ofSource ▸ announcing.sends turn.carried.context
  obtain ⟨exchanges, verdict, status, left⟩ := Plan.turn_leaves respond fixture token state split
    (PlanRun.runCase_sends respond announcing.plan fixed parameters _)
  rw [ofSource] at exchanges left
  have fresh : (announcing.plan.context fixture).Agree announcing.names turn.start.context := by
    have fromStart : Plan.turns respond announcing.plan fixture token state =
        [] ++ before ++ turn :: others := split
    apply Plan.agree_between fixture token state fromStart
    intro episode member
    refine (announcing.spared (.inl ?_)).2
    rw [← ofEarly]
    exact List.mem_map_of_mem member
  refine ⟨before, turn, others, _, split, ofEarly, ofSource, ofOthers, exchanges, rfl, fresh, ?_⟩
  intro found member
  obtain ⟨middle, behind, rfl⟩ := List.append_of_mem member
  have onward : Plan.turns respond announcing.plan fixture token state =
      (before ++ [turn]) ++ middle ++ found :: behind := by
    rw [split]
    simp
  have agree := Plan.agree_between fixture token state onward fun episode between =>
    (announcing.spared (.inr (ofOthers episode (List.mem_append_left _ between)))).2
  rw [PlanState.behind_append] at agree
  have kept : turn.after.context.Agree announcing.names found.start.context := agree
  rw [left] at kept
  exact (Context.Agree.settle _ _ _ _).trans kept

namespace Announces

variable {announcing} {respond} {fixture} {token} {state} {before others : List Episode}
  {turn : Episode} {answer : Answer}

/-- Every turn is one of a case before the one that asks, that of the case that asks, or begins with
what is kept of the answer. -/
theorem found
    (announces : announcing.Announces respond fixture token state before turn others answer)
    {episode : Episode} (member : episode ∈ announcing.turns respond fixture token state) :
    episode.case ∈ announcing.early ∨ episode = turn ∨
      episode.case.id ≠ announcing.source.id ∧
        (CaseRun.learned announcing.keeps turn.start.context answer).Agree announcing.names
          episode.start.context := by
  rw [announces.split] at member
  rcases List.mem_append.mp member with among | behind
  · exact .inl (announces.ofEarly ▸ List.mem_map_of_mem among)
  · rcases List.mem_cons.mp behind with same | among
    · exact .inr (.inl same)
    · have apart := (announcing.spared (.inr (announces.ofOthers episode among))).1
      exact .inr (.inr ⟨apart, announces.reaches episode among⟩)

end Announces

end Announcing

end PlatformAudit
