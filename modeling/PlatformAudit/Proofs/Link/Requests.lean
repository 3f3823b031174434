import PlatformAudit.Link.Link

/-!
# Requests one after the other

A list of requests is answered in order, each in the state that the one before has left.  What one
request keeps, a list of requests keeps; and if two links answer each request alike as long as their
states are related, they answer a list of requests alike.
-/

universe u v

namespace PlatformAudit.Link

variable {σ : Type u} {τ : Type v}

theorem acceptAnswer_eq_ok_iff {sent : Header} {answer : Answer} {response : Response} :
    acceptAnswer sent answer = .ok response ↔
      answer = .ok response ∧ sent.Matches response.header := by
  cases answer with
  | error cause =>
      constructor
      · intro accepted
        cases accepted
      · rintro ⟨answered, -⟩
        cases answered
  | ok other =>
      rw [acceptAnswer]
      by_cases same : sent.Matches other.header
      · rw [if_pos same]
        constructor
        · intro accepted
          cases accepted
          exact ⟨rfl, same⟩
        · exact fun both => both.1
      · rw [if_neg same]
        constructor
        · intro accepted
          cases accepted
        · rintro ⟨answered, matching⟩
          cases answered
          exact absurd matching same

def answers (link : Link σ) : σ → List Request → List Answer
  | _, [] => []
  | state, request :: rest =>
      let (answer, next) := link.answer state request
      answer :: link.answers next rest

def after (link : Link σ) : σ → List Request → σ
  | state, [] => state
  | state, request :: rest => link.after (link.answer state request).2 rest

/-- What each of some requests keeps is kept by all of them. -/
theorem after_keeps_of {link : Link σ} {kept : σ → Prop} {asked : Request → Prop}
    (step : ∀ state request, kept state → asked request → kept (link.answer state request).2)
    {state : σ} (start : kept state) {requests : List Request}
    (all : ∀ request ∈ requests, asked request) : kept (link.after state requests) := by
  induction requests generalizing state with
  | nil => exact start
  | cons request rest induction =>
      have next := step state request start (all request List.mem_cons_self)
      exact induction next fun later member => all later (List.mem_cons_of_mem _ member)

theorem after_keeps {link : Link σ} {kept : σ → Prop}
    (step : ∀ state request, kept state → kept (link.answer state request).2) {state : σ}
    (start : kept state) (requests : List Request) : kept (link.after state requests) :=
  after_keeps_of (fun state request holds _ => step state request holds) start
    fun _ _ => trivial

/-- Two links whose states stay related and that answer each request alike answer all of them
alike. -/
theorem answers_eq_of_related {first : Link σ} {second : Link τ} {related : σ → τ → Prop}
    {asked : Request → Prop}
    (step : ∀ state other request, related state other → asked request →
      (first.answer state request).1 = (second.answer other request).1 ∧
        related (first.answer state request).2 (second.answer other request).2)
    {state : σ} {other : τ} (start : related state other) {requests : List Request}
    (all : ∀ request ∈ requests, asked request) :
    first.answers state requests = second.answers other requests := by
  induction requests generalizing state other with
  | nil => rfl
  | cons request rest induction =>
      obtain ⟨same, next⟩ := step state other request start (all request List.mem_cons_self)
      have others := induction next fun later member => all later (List.mem_cons_of_mem _ member)
      simp only [answers, same, others]

end PlatformAudit.Link
