import PlatformAudit.Platform.Scripted
import PlatformAudit.Proofs.Platform.Posts

/-!
# Late messages are neither lost nor repeated

Whatever the handlers of a switchboard post while they handle commands is fetched in the order in
which it was posted, each kind of message from a queue of its own.  A request changes what has been
fetched and what waits, but the one followed by the other stays what has been posted, whether or not
the answers to the commands are accepted.
-/

universe u

namespace PlatformAudit

/-- The late message of some kind that a request has brought. -/
def Request.fetched? (late : Late) : Request → Answer → Option Response
  | .await other, .ok response => if other = late then some response else none
  | .await _, .error _ | .command _ _, _ => none

namespace Late

def fetched (late : Late) (exchanges : List (Request × Answer)) : List Response :=
  exchanges.filterMap fun (request, answer) => request.fetched? late answer

def posted (late : Late) (posts : List Post) : List Response :=
  (posts.filter (·.late = late)).map Post.response

variable (late : Late)

@[simp] theorem fetched_cons (request : Request) (answer : Answer)
    (rest : List (Request × Answer)) :
    late.fetched ((request, answer) :: rest) =
      (request.fetched? late answer).toList ++ late.fetched rest := by
  cases brought : request.fetched? late answer <;> simp [fetched, brought]

@[simp] theorem posted_nil : late.posted [] = [] := rfl

@[simp] theorem posted_append (first second : List Post) :
    late.posted (first ++ second) = late.posted first ++ late.posted second := by
  simp [posted]

theorem posted_cons (post : Post) (rest : List Post) :
    late.posted (post :: rest) =
      (if post.late = late then [post.response] else []) ++ late.posted rest := by
  by_cases ofKind : post.late = late <;> simp [posted, ofKind]

end Late

namespace Pending

/-- Posts are put at the end of the queues of their kinds, in order. -/
theorem queue_pushAll (pending : Pending) (posts : List Post) (late : Late) :
    (pending.pushAll posts).queue late = pending.queue late ++ late.posted posts := by
  induction posts generalizing pending with
  | nil => simp [pushAll]
  | cons post rest induction =>
      have one : (pending.push post).queue late =
          pending.queue late ++ if post.late = late then [post.response] else [] := by
        rw [push, queue_withQueue]
        by_cases ofKind : post.late = late
        · rw [if_pos ofKind.symm, if_pos ofKind, ofKind]
        · rw [if_neg (Ne.symm ofKind), if_neg ofKind, List.append_nil]
      calc
        (pending.pushAll (post :: rest)).queue late
            = ((pending.push post).pushAll rest).queue late := rfl
        _ = (pending.push post).queue late ++ late.posted rest := induction _
        _ = pending.queue late ++ late.posted (post :: rest) := by
          rw [one, List.append_assoc, ← Late.posted_cons]

end Pending

namespace Switchboard

variable {α : Type u} [Attendant α]

/-- What is posted while a request is answered.  Only a command that fits into a message reaches a
handler, and only if its protocol has one. -/
def posts (board : Switchboard α) : Request → List Post
  | .await _ => []
  | .command header parameters =>
      if maxPayloadWords < parameters.length then []
      else
        match board.handlers.get? header.protocol with
        | none => []
        | some handler =>
            (Attendant.attend handler board.pending.waiting header parameters).posts

/-- What is posted while some requests are answered, in order. -/
def allPosts (board : Switchboard α) : List Request → List Post
  | [] => []
  | request :: rest => board.posts request ++ (link.answer board request).2.allPosts rest

variable {board : Switchboard α}

theorem send_of_long (header : Header) {parameters : List UInt32}
    (long : maxPayloadWords < parameters.length) :
    link.send board header parameters =
      (.error (.tooManyParameters parameters.length maxPayloadWords), board) :=
  if_pos long

/-- A command is handled before its answer is looked at, so what was posted meanwhile stays. -/
theorem queue_send (board : Switchboard α) (header : Header) (parameters : List UInt32)
    (late : Late) :
    (link.send board header parameters).2.pending.queue late =
      board.pending.queue late ++ late.posted (board.posts (.command header parameters)) := by
  by_cases long : maxPayloadWords < parameters.length
  · rw [send_of_long header long, posts, if_pos long]
    simp
  · rw [Link.send, posts, if_neg long, if_neg long]
    change (board.dispatch header parameters).2.pending.queue late = _
    unfold dispatch
    cases board.handlers.get? header.protocol with
    | none => simp
    | some handler => exact board.pending.queue_pushAll _ late

theorem await_of_none {late : Late} (nothing : board.pending.queue late = []) :
    link.await board late = (.error (.nothingPending late), board) := by
  have left : board.take late = (.error (.nothingPending late), board) := by
    simp [take, Pending.pop?, nothing]
  change (Link.acceptLate late (board.take late).1, (board.take late).2) = _
  rw [left]
  rfl

/-- A wait takes the oldest message of its kind.  Its header is right, because it was posted. -/
theorem await_of_some (posted : board.pending.Posted) {late : Late} {oldest : Response}
    {rest : List Response} (queue : board.pending.queue late = oldest :: rest) :
    link.await board late =
      (.ok oldest, { board with pending := board.pending.withQueue late rest }) := by
  have taken : board.take late =
      (.ok oldest, { board with pending := board.pending.withQueue late rest }) := by
    simp [take, Pending.pop?, queue]
  obtain ⟨post, ofKind, response⟩ := posted late oldest (queue ▸ List.mem_cons_self)
  have awaited : oldest.header.kind = late.kind := by
    rw [← response, post.kind_response, ofKind]
  change (Link.acceptLate late (board.take late).1, (board.take late).2) = _
  rw [taken, Link.acceptLate, if_pos awaited]

/-- A wait fails if there is nothing to wait for, and says so. -/
theorem await_eq_error_iff (posted : board.pending.Posted) (late : Late) (cause : LinkError) :
    (link.await board late).1 = .error cause ↔
      board.pending.queue late = [] ∧ cause = .nothingPending late := by
  cases queue : board.pending.queue late with
  | nil =>
      rw [await_of_none queue]
      simp [eq_comm]
  | cons oldest rest =>
      rw [await_of_some posted queue]
      simp

/-- One request: what it brings and what waits after it is what waited before and what was posted
meanwhile. -/
theorem fetched_append_queue (posted : board.pending.Posted) (request : Request) (late : Late) :
    (request.fetched? late (link.answer board request).1).toList ++
        (link.answer board request).2.pending.queue late =
      board.pending.queue late ++ late.posted (board.posts request) := by
  cases request with
  | command header parameters => exact board.queue_send header parameters late
  | await other =>
      change (Request.fetched? late (.await other) (link.await board other).1).toList ++
          (link.await board other).2.pending.queue late =
        board.pending.queue late ++ []
      rw [List.append_nil]
      cases queue : board.pending.queue other with
      | nil =>
          rw [await_of_none queue]
          rfl
      | cons oldest rest =>
          rw [await_of_some posted queue]
          by_cases same : other = late
          · subst same
            simp [Request.fetched?, Pending.queue_withQueue, queue]
          · simp [Request.fetched?, Pending.queue_withQueue, same, Ne.symm same]

/-- Requests one after the other: what they have brought and what waits after them is what waited
before and what was posted meanwhile. -/
theorem fetched_append_queue_after (posted : board.pending.Posted) (requests : List Request)
    (late : Late) :
    late.fetched (requests.zip (link.answers board requests)) ++
        (link.after board requests).pending.queue late =
      board.pending.queue late ++ late.posted (board.allPosts requests) := by
  induction requests generalizing board with
  | nil => simp [Late.fetched, Link.after, allPosts]
  | cons request rest induction =>
      have step := fetched_append_queue posted request late
      have others := induction (posted_answer board request posted)
      simp only [Link.answers, Link.after, List.zip_cons_cons, Late.fetched_cons, allPosts,
        Late.posted_append, List.append_assoc]
      rw [others, ← List.append_assoc, step, List.append_assoc]

/-- The queues of a switchboard lose nothing and repeat nothing.  Of each kind, the messages that
were fetched followed by those that wait are those that were posted, in order, whatever the handlers
do and whatever is asked in between.  A wait fails if the queue of its kind is empty and only then.
A command that is too long reaches no handler. -/
theorem queues_keep_posts (handlers : ProtocolMap α) (requests : List Request) :
    let start : Switchboard α := { handlers }
    let exchanges := requests.zip (link.answers start requests)
    let board := link.after start requests
    (∀ late, late.fetched exchanges ++ board.pending.queue late =
      late.posted (start.allPosts requests)) ∧
    (∀ late cause, (link.await board late).1 = .error cause ↔
      board.pending.queue late = [] ∧ cause = .nothingPending late) ∧
    ∀ header parameters, 25 < parameters.length →
      board.posts (.command header parameters) = [] ∧
        link.send board header parameters =
          (.error (.tooManyParameters parameters.length 25), board) := by
  intro start exchanges board
  have fresh : start.pending.Posted := Pending.posted_empty
  have posted : board.pending.Posted := Link.after_keeps posted_answer fresh requests
  refine ⟨fun late => ?_, await_eq_error_iff posted, fun header parameters long => ?_⟩
  · have balance := fetched_append_queue_after fresh requests late
    have empty : start.pending.queue late = [] := by cases late <;> rfl
    rwa [empty, List.nil_append] at balance
  · exact ⟨if_pos long, send_of_long header long⟩

/-- A handler that answers for a protocol that was not asked, and posts a completion under the
header of a notification. -/
def garbling : Scripted where
  rules :=
    [ { edit := { protocol := some Protocol.sensor }
        delayed := [{ edit := { kind := some .notification }, status := 0, returns := [7] }] } ]

def clockCommand : Header :=
  .command Protocol.clock 1

/-- The answer of the garbling handler is refused, but the completion that it has posted waits, and
it does not wait as a notification. -/
theorem queues_keep_posts_garbled :
    let start : Switchboard Scripted := { handlers := .insert .empty Protocol.clock garbling }
    let requests : List Request := [.command clockCommand [], .await .notification]
    let board := link.after start requests
    link.answers start requests =
        [ .error (.foreignAnswer clockCommand { clockCommand with protocol := Protocol.sensor })
        , .error (.nothingPending .notification) ] ∧
      board.pending.queue .delayedResponse =
        [{ header := { clockCommand with kind := .delayedResponse }, status := 0, returns := [7] }] ∧
      link.send board clockCommand (List.replicate 26 0) =
        (.error (.tooManyParameters 26 25), board) := by
  intro start requests board
  obtain ⟨kept, -, long⟩ := queues_keep_posts start.handlers requests
  have brought : Late.delayedResponse.fetched (requests.zip (link.answers start requests)) = [] :=
    by rfl
  refine ⟨by rfl, ?_, (long clockCommand (List.replicate 26 0) (by decide)).2⟩
  have balance := kept .delayedResponse
  rw [brought, List.nil_append] at balance
  exact balance

end Switchboard

end PlatformAudit
