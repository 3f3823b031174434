import PlatformAudit.Platform.Switchboard
import PlatformAudit.Proofs.Link.Requests

/-!
# What waits was posted

Late messages come into a queue by being posted and leave it by being fetched.  So whatever a
platform delivers late is the message of a post of the kind that was waited for.
-/

universe u

namespace PlatformAudit

theorem Post.kind_response (post : Post) : post.response.header.kind = post.late.kind := by
  cases post <;> rfl

namespace Pending

theorem queue_withQueue (pending : Pending) (late other : Late) (responses : List Response) :
    (pending.withQueue late responses).queue other =
      if other = late then responses else pending.queue other := by
  cases late <;> cases other <;> rfl

/-- Every message in waiting was posted, and waits in the queue of its kind. -/
def Posted (pending : Pending) : Prop :=
  ∀ late, ∀ response ∈ pending.queue late,
    ∃ post : Post, post.late = late ∧ post.response = response

theorem posted_empty : Posted {} := by
  intro late response member
  cases late <;> cases member

theorem Posted.push {pending : Pending} (posted : pending.Posted) (post : Post) :
    (pending.push post).Posted := by
  intro late response member
  rw [Pending.push, queue_withQueue] at member
  by_cases here : late = post.late
  · rw [if_pos here] at member
    rcases List.mem_append.mp member with old | new
    · rw [here]
      exact posted post.late response old
    · exact ⟨post, here.symm, (List.mem_singleton.mp new).symm⟩
  · rw [if_neg here] at member
    exact posted late response member

theorem Posted.pushAll {pending : Pending} (posted : pending.Posted) (posts : List Post) :
    (pending.pushAll posts).Posted := by
  induction posts generalizing pending with
  | nil => exact posted
  | cons post rest induction => exact induction (posted.push post)

theorem Posted.pop? {pending rest : Pending} {late : Late} {response : Response}
    (posted : pending.Posted) (popped : pending.pop? late = some (response, rest)) :
    (∃ post : Post, post.late = late ∧ post.response = response) ∧ rest.Posted := by
  unfold Pending.pop? at popped
  split at popped
  case h_1 => cases popped
  case h_2 oldest others queue =>
    cases popped
    refine ⟨posted late _ (by rw [queue]; exact List.mem_cons_self), ?_⟩
    intro other message member
    rw [queue_withQueue] at member
    by_cases here : other = late
    · rw [if_pos here] at member
      rw [here]
      exact posted late message (by rw [queue]; exact List.mem_cons_of_mem _ member)
    · rw [if_neg here] at member
      exact posted other message member

end Pending

namespace Switchboard

variable {α : Type u}

theorem posted_take {board : Switchboard α} (posted : board.pending.Posted) (late : Late) :
    (board.take late).2.pending.Posted := by
  unfold take
  split
  case h_1 => exact posted
  case h_2 response rest popped => exact (posted.pop? popped).2

variable [Attendant α]

theorem posted_dispatch {board : Switchboard α} (posted : board.pending.Posted) (header : Header)
    (parameters : List UInt32) : (board.dispatch header parameters).2.pending.Posted := by
  unfold dispatch
  split
  · exact posted
  · exact posted.pushAll _

theorem posted_answer (board : Switchboard α) (request : Request) (posted : board.pending.Posted) :
    (link.answer board request).2.pending.Posted := by
  cases request with
  | command header parameters =>
      by_cases long : maxPayloadWords < parameters.length
      · rw [Link.answer, Link.send, if_pos long]
        exact posted
      · rw [Link.answer, Link.send, if_neg long]
        exact posted_dispatch posted header parameters
  | await late => exact posted_take posted late

/-- What is delivered late was posted as what was waited for. -/
theorem delivered_was_posted {board : Switchboard α} (posted : board.pending.Posted) {late : Late}
    {response : Response} (delivered : (link.await board late).1 = .ok response) :
    ∃ post : Post, post.late = late ∧ post.response = response := by
  change Link.acceptLate late (board.take late).1 = _ at delivered
  unfold take at delivered
  split at delivered
  case h_1 => cases delivered
  case h_2 oldest rest popped =>
    obtain ⟨post, kind, same⟩ := (posted.pop? popped).1
    by_cases awaited : oldest.header.kind = late.kind
    · have accepted : Link.acceptLate late (.ok oldest) = .ok oldest := if_pos awaited
      rw [accepted] at delivered
      cases delivered
      exact ⟨post, kind, same⟩
    · have refused : Link.acceptLate late (.ok oldest) =
          .error (.unexpectedKind late.kind oldest.header.kind) := if_neg awaited
      rw [refused] at delivered
      cases delivered

end Switchboard

end PlatformAudit
