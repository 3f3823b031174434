import PlatformAudit.Platform.Config
import PlatformAudit.Proofs.Protocol.ProtocolMap

/-!
# Running platforms

A switchboard hands each command to the handler of its protocol and leaves the others alone.  A
configured platform that runs consists of its base configuration, of the state of its power
protocol, if it has one, and of the messages in waiting.  A base command changes nothing; a power
command changes the state of the power protocol and may queue messages.
-/

universe u

namespace PlatformAudit

namespace Switchboard

variable {α : Type u} [Handler α] {board : Switchboard α} {handler : α}

theorem answer_command {header : Header} {parameters : List UInt32}
    (handled : board.handlers.get? header.protocol = some handler)
    (fits : parameters.length ≤ maxPayloadWords)
    (matching : header.Matches (Handler.respond handler header parameters).response.header) :
    let reply := Handler.respond handler header parameters
    link.answer board (.command header parameters) =
      (.ok reply.response,
        { handlers := board.handlers.insert header.protocol reply.next
          pending := board.pending.pushAll reply.posts }) := by
  intro reply
  have dispatched : board.dispatch header parameters =
      (reply.response,
        { handlers := board.handlers.insert header.protocol reply.next
          pending := board.pending.pushAll reply.posts }) := by
    rw [dispatch, handled]
    rfl
  have accepted : header.Matches reply.response.header := matching
  simp only [Link.answer, Link.send, link, Nat.not_lt.mpr fits, if_false, dispatched,
    Link.acceptAnswer, accepted, if_true]

/-- What a handler keeps of itself whatever it is asked is kept whatever the board is asked. -/
theorem answer_keeps {protocol : UInt8} {kept : α → Prop}
    (keeps : ∀ handler header parameters, kept handler →
      kept (Handler.respond handler header parameters).next)
    (holds : ∃ handler, board.handlers.get? protocol = some handler ∧ kept handler)
    (request : Request) :
    ∃ handler, (link.answer board request).2.handlers.get? protocol = some handler ∧
      kept handler := by
  obtain ⟨handler, handled, holds⟩ := holds
  have same : ∃ handler, board.handlers.get? protocol = some handler ∧ kept handler :=
    ⟨handler, handled, holds⟩
  cases request with
  | await late =>
      simp only [Link.answer, Link.await, link, take]
      split <;> exact same
  | command header parameters =>
      simp only [Link.answer, Link.send]
      split
      · exact same
      · simp only [link, dispatch]
        split
        · exact same
        · rename_i asked found
          dsimp only
          rw [ProtocolMap.get?_insert]
          split
          · rename_i here
            rw [← here, handled] at found
            obtain rfl : handler = asked := Option.some.inj found
            exact ⟨_, rfl, keeps handler header parameters holds⟩
          · exact same

end Switchboard

/-- What a platform makes of a base command. -/
def Base.Config.reply (config : Base.Config) (header : Header) (parameters : List UInt32) :
    Response :=
  match config.returns header.message parameters with
  | .ok returns => { header, status := Status.success.code, returns }
  | .error status => .ofStatus header status

namespace Base.Config

variable (config : Base.Config) (header : Header) (parameters : List UInt32)

theorem respond_eq : Handler.respond (Service.base config) header parameters =
    { response := config.reply header parameters, next := .base config } := by
  unfold reply
  simp only [Handler.respond]
  cases config.returns header.message parameters <;> rfl

theorem reply_matches :
    header.Matches (Handler.respond (Service.base config) header parameters).response.header := by
  rw [respond_eq, reply]
  split <;> exact ⟨rfl, rfl⟩

end Base.Config

namespace Switchboard

variable {board : Switchboard Service} {service : Power.Service}

/-- The power protocol of a board is in the given state. -/
def ServesPower (service : Power.Service) (board : Switchboard Service) : Prop :=
  board.handlers.get? Protocol.power = some (.power service)

def withPower (board : Switchboard Service) (service : Power.Service) : Switchboard Service :=
  { board with handlers := board.handlers.insert Protocol.power (.power service) }

theorem servesPower_withPower (board : Switchboard Service) (service : Power.Service) :
    (board.withPower service).ServesPower service := by
  rw [ServesPower, withPower, ProtocolMap.get?_insert, if_pos rfl]

@[simp] theorem withPower_withPower (board : Switchboard Service) (first second : Power.Service) :
    (board.withPower first).withPower second = board.withPower second := by
  simp only [withPower, ProtocolMap.insert_insert]

theorem ServesPower.answer (serves : board.ServesPower service) {header : Header}
    {parameters : List UInt32} (protocol : header.protocol = Protocol.power)
    (fits : parameters.length ≤ maxPayloadWords) :
    let reply := Handler.respond service header parameters
    link.answer board (.command header parameters) =
      (.ok reply.response,
        { board.withPower reply.next with pending := board.pending.pushAll reply.posts }) := by
  intro reply
  have handled : board.handlers.get? header.protocol = some (.power service) := protocol ▸ serves
  have matching : header.Matches reply.response.header := by
    have header_eq : reply.response.header = header := by
      simp only [reply, Handler.respond, Reply.ofHandling, Response.ofResult]
      split <;> rfl
    rw [header_eq]
    exact ⟨rfl, rfl⟩
  rw [answer_command handled fits matching, protocol]
  rfl

/-- A late message is fetched if no other of its kind waits. -/
theorem answer_await (board : Switchboard Service) (pending : Pending) (post : Post)
    (waiting : pending.queue post.late = []) :
    link.answer { board with pending := pending.pushAll [post] } (.await post.late) =
      (.ok post.response, { board with pending }) := by
  cases pending
  cases post <;> cases waiting <;> rfl

end Switchboard

def runningPlatform (base : Base.Config) (power : Option Power.Service) (pending : Pending) :
    Switchboard Service where
  handlers :=
    (Service.base base :: (power.map Service.power).toList).foldl
      (fun handlers service => handlers.insert service.protocol service) .empty
  pending := pending

namespace PlatformConfig

theorem switchboard_eq (config : PlatformConfig) :
    config.switchboard = runningPlatform config.base (config.power.map .start) {} := by
  unfold switchboard runningPlatform services
  cases config.power <;> rfl

end PlatformConfig

namespace RunningPlatform

variable (base : Base.Config) (power : Option Power.Service) (service : Power.Service)
  (pending : Pending)

theorem handler_base :
    (runningPlatform base power pending).handlers.get? Protocol.base = some (.base base) := by
  cases power <;> rfl

theorem handler_power : (runningPlatform base (some service) pending).ServesPower service :=
  rfl

theorem insert_base :
    (runningPlatform base power pending).handlers.insert Protocol.base (.base base) =
      (runningPlatform base power pending).handlers := by
  cases power <;> exact ProtocolMap.ext rfl

variable {header : Header} {parameters : List UInt32}

theorem answer_base (protocol : header.protocol = Protocol.base)
    (fits : parameters.length ≤ maxPayloadWords) :
    Switchboard.link.answer (runningPlatform base power pending) (.command header parameters) =
      (.ok (base.reply header parameters), runningPlatform base power pending) := by
  have handled : (runningPlatform base power pending).handlers.get? header.protocol =
      some (.base base) := by
    rw [protocol, handler_base]
  have answered := Switchboard.answer_command handled fits (base.reply_matches header parameters)
  rw [Base.Config.respond_eq] at answered
  rw [answered, protocol, insert_base]
  rfl

end RunningPlatform

end PlatformAudit
