import PlatformAudit.Proofs.Mailbox.Exchange
import PlatformAudit.Proofs.Platform.Posts
import PlatformAudit.Proofs.Protocol.ProtocolMap

/-!
# A mailbox is transparent

A platform behind a mailbox answers as the same platform in the same process, as long as everything
fits into a message.  The two runs are related if their handlers are the same; the late messages
that wait may differ, because a platform behind a mailbox has put some of them into a file.
-/

universe u v

namespace PlatformAudit

namespace Switchboard

variable {α : Type u}

theorem nextLate?_handlers {board rest : Switchboard α} {response : Response}
    (next : board.nextLate? = some (response, rest)) : rest.handlers = board.handlers := by
  unfold nextLate? at next
  split at next
  · cases next
    rfl
  · obtain ⟨⟨popped, others⟩, -, equality⟩ := Option.map_eq_some_iff.mp next
    cases equality
    rfl

/-- Late messages are put into their own file, and the handlers do not notice. -/
theorem stage_keeps (board : Switchboard α) (mailbox : Mailbox) :
    (board.stage mailbox).1.message = mailbox.message ∧
      (board.stage mailbox).1.signal = mailbox.signal ∧
      (board.stage mailbox).2.handlers = board.handlers := by
  unfold stage
  split
  · exact ⟨rfl, rfl, rfl⟩
  · split
    · split
      case h_1 => exact ⟨rfl, rfl, rfl⟩
      case h_2 response rest next => exact ⟨rfl, rfl, nextLate?_handlers next⟩
    · exact ⟨rfl, rfl, rfl⟩

section Commands

variable [Handler α] {header : Header} {parameters : List UInt32}

/-- A platform that reads a command from its file does what the same platform does in the process,
and writes the answer. -/
theorem serve_eq_dispatch (board : Switchboard α) {mailbox : Mailbox}
    (read : Frame.toCommand (Mailbox.buffer mailbox.message) = .ok (header, parameters)) :
    board.serve mailbox =
      (board.dispatch header parameters).2.writeAnswer mailbox
        (board.dispatch header parameters).1 := by
  simp only [serve, read, dispatch]
  cases board.handlers.get? header.protocol <;> rfl

theorem serve_command (board : Switchboard α) {mailbox : Mailbox} (few : parameters.length ≤ 25)
    (inRange : header.Fits)
    (command : Mailbox.buffer mailbox.message = Frame.build 0 header parameters) :
    board.serve mailbox =
      (board.dispatch header parameters).2.writeAnswer mailbox
        (board.dispatch header parameters).1 := by
  have read : Frame.toCommand (Mailbox.buffer mailbox.message) = .ok (header, parameters) := by
    rw [command, Frame.toCommand, Frame.read_build few, Header.carried_of_fits inRange]
  exact board.serve_eq_dispatch read

/-- What is answered and what becomes of the handlers depends on the handlers only. -/
theorem dispatch_congr {first second : Switchboard α} (same : first.handlers = second.handlers)
    (header : Header) (parameters : List UInt32) :
    (first.dispatch header parameters).1 = (second.dispatch header parameters).1 ∧
      (first.dispatch header parameters).2.handlers =
        (second.dispatch header parameters).2.handlers := by
  simp only [dispatch, same]
  split
  · exact ⟨rfl, same⟩
  · exact ⟨rfl, rfl⟩

def Allows (allowed : UInt8 → α → Prop) (handlers : ProtocolMap α) : Prop :=
  ∀ protocol handler, handlers.get? protocol = some handler → allowed protocol handler

variable {allowed : UInt8 → α → Prop} {board : Switchboard α}

theorem dispatch_fits (fitting : Handler.Fitting allowed) (allows : Allows allowed board.handlers)
    (command : header.kind = .command) (inRange : header.Fits) (few : parameters.length ≤ 25) :
    (board.dispatch header parameters).1.FitsMessage := by
  unfold dispatch
  split
  case h_1 =>
    refine ⟨?_, inRange, Nat.zero_le _⟩
    change header.kind ≠ .notification
    rw [command]
    decide
  case h_2 handler found => exact fitting.response (allows _ _ found) command inRange few

theorem dispatch_allows (fitting : Handler.Fitting allowed)
    (allows : Allows allowed board.handlers) (command : header.kind = .command)
    (inRange : header.Fits) (few : parameters.length ≤ 25) :
    Allows allowed (board.dispatch header parameters).2.handlers := by
  unfold dispatch
  split
  case h_1 => exact allows
  case h_2 handler found =>
    intro protocol other present
    rw [ProtocolMap.get?_insert] at present
    by_cases here : protocol = header.protocol
    · rw [if_pos here] at present
      cases present
      rw [here]
      exact fitting.next (allows _ _ found) command inRange few
    · rw [if_neg here] at present
      exact allows protocol other present

end Commands

end Switchboard

def Request.IsCommandInRange : Request → Prop
  | .command header _ => header.kind = .command ∧ header.Fits
  | .await _ => False

namespace Switchboard

variable {α : Type u} [Handler α] {allowed : UInt8 → α → Prop}

/-- The platform behind a mailbox of files has the handlers of another one, and all are allowed. -/
structure Behind (allowed : UInt8 → α → Prop) (state : Mailbox × Switchboard α)
    (board : Switchboard α) : Prop where
  message : ∃ contents, state.1.message = .file contents
  signal : ∃ contents, state.1.signal = .file contents
  handlers : state.2.handlers = board.handlers
  allows : Allows allowed board.handlers

/-- What comes back through the mailbox is what the platform answered, if it fits.  The files stay
files, and the handlers go on as they do without a mailbox. -/
theorem exchange_serve (limitMs : Nat) {mailbox : Mailbox} (platform : Switchboard α)
    {message signal : List UInt8} {header : Header} {parameters : List UInt32}
    (inMessage : mailbox.message = .file message) (inSignal : mailbox.signal = .file signal)
    (few : parameters.length ≤ 25) (inRange : header.Fits)
    (fits : (platform.dispatch header parameters).1.FitsMessage) :
    ∃ after : Mailbox × Switchboard α,
      Mailbox.exchange limitMs serve (mailbox, platform) header parameters =
          (.ok (platform.dispatch header parameters).1, after) ∧
        (∃ contents, after.1.message = .file contents) ∧
        (∃ contents, after.1.signal = .file contents) ∧
        after.2.handlers = (platform.dispatch header parameters).2.handlers := by
  let written := Channel.splice message 0 (Frame.build 0 header parameters)
  let rung : Mailbox :=
    { mailbox with
      message := .file written
      signal := .file (Channel.splice signal 0 [Mailbox.doorbell]) }
  -- A late message may have been put into its file before the answer is written.
  obtain ⟨sameMessage, sameSignal, sameHandlers⟩ :=
    stage_keeps (platform.dispatch header parameters).2 rung
  obtain ⟨bytes, framed⟩ : ∃ bytes,
      Frame.ofResponse (platform.dispatch header parameters).1 = .ok bytes :=
    ⟨_, (Frame.ofResponse_eq_ok_iff fits.kind).mpr ⟨fits.returns, rfl⟩⟩
  have command : Mailbox.buffer rung.message = Frame.build 0 header parameters :=
    Mailbox.buffer_written message (Frame.length_build few)
  let staged := (platform.dispatch header parameters).2.stage rung
  let answered : Mailbox := { staged.1 with message := .file (Channel.splice written 0 bytes) }
  have served : platform.serve rung = (answered, staged.2) := by
    rw [serve_command platform few inRange command]
    simp only [writeAnswer, sameMessage, rung, writeResponse_file written framed]
    rfl
  have collected : answered.collect limitMs = .ok (platform.dispatch header parameters).1 :=
    Mailbox.collect_framed limitMs fits framed rfl
  refine ⟨(answered, staged.2), ?_, ⟨_, rfl⟩, ⟨_, sameSignal⟩, sameHandlers⟩
  rw [Mailbox.exchange_of_files limitMs serve platform inMessage inSignal few]
  dsimp only
  rw [served]
  exact congrArg (·, answered, staged.2) collected

theorem Behind.answer (fitting : Handler.Fitting allowed) (limitMs : Nat)
    (state : Mailbox × Switchboard α) (board : Switchboard α) (request : Request)
    (behind : Behind allowed state board) (inRange : request.IsCommandInRange) :
    ((Mailbox.link limitMs serve).answer state request).1 = (link.answer board request).1 ∧
      Behind allowed ((Mailbox.link limitMs serve).answer state request).2
        (link.answer board request).2 := by
  obtain ⟨mailbox, platform⟩ := state
  cases request with
  | await late => exact inRange.elim
  | command header parameters =>
      obtain ⟨command, inRange⟩ := inRange
      by_cases long : maxPayloadWords < parameters.length
      · rw [Link.answer, Link.send, Link.answer, Link.send, if_pos long, if_pos long]
        exact ⟨rfl, behind⟩
      have few : parameters.length ≤ 25 := Nat.not_lt.mp long
      have allows : Allows allowed platform.handlers := by
        rw [behind.handlers]
        exact behind.allows
      obtain ⟨message, inMessage⟩ := behind.message
      obtain ⟨signal, inSignal⟩ := behind.signal
      obtain ⟨after, exchanged, messageFile, signalFile, handlers⟩ :=
        exchange_serve limitMs platform inMessage inSignal few inRange
          (dispatch_fits fitting allows command inRange few)
      obtain ⟨sameResponse, sameHandlers⟩ := dispatch_congr behind.handlers header parameters
      have viaMailbox : (Mailbox.link limitMs serve).answer (mailbox, platform)
          (.command header parameters) =
            (Link.acceptAnswer header (.ok (platform.dispatch header parameters).1), after) := by
        rw [Link.answer, Link.send, if_neg long]
        simp only [Mailbox.link, exchanged]
      have inProcess : link.answer board (.command header parameters) =
          (Link.acceptAnswer header (.ok (board.dispatch header parameters).1),
            (board.dispatch header parameters).2) := by
        rw [Link.answer, Link.send, if_neg long]
        rfl
      rw [viaMailbox, inProcess, ← sameResponse]
      exact ⟨rfl, messageFile, signalFile, handlers.trans sameHandlers,
        dispatch_allows fitting behind.allows command inRange few⟩

end Switchboard

/-! ### Agreement -/

namespace Switchboard

/-- The handlers of a configured platform with short pages answer with what fits into a message. -/
theorem allows_configured {config : PlatformConfig} (short : config.base.pageLength ≤ 92) :
    Allows (fun _ service => service.HasShortPages) config.switchboard.handlers := by
  have base : Allows (fun _ service => service.HasShortPages)
      (ProtocolMap.empty.insert Protocol.base (Service.base config.base)) := by
    intro protocol service found
    rw [ProtocolMap.get?_insert] at found
    split at found
    · cases found
      exact short
    · cases found
  unfold PlatformConfig.switchboard PlatformConfig.services
  cases config.power with
  | none => exact base
  | some power =>
      intro protocol service found
      simp only [Option.map_some, Option.toList_some, List.foldl_cons, List.foldl_nil] at found
      rw [ProtocolMap.get?_insert] at found
      split at found
      · cases found
        trivial
      · exact base protocol service found

/-- A mailbox is transparent.  Commands are answered through it as they are by the same handlers in
the process, whatever its files held before, and a late message that the handlers have posted is
taken out of it as it would be in the process, if it fits.  A base handler is one of those for which
this holds exactly if its longest page has at most 92 protocols. -/
theorem mailbox_agrees {α : Type u} [Handler α] {allowed : UInt8 → α → Prop}
    (fitting : Handler.Fitting allowed) {handlers : ProtocolMap α}
    (allows : Allows allowed handlers) (limitMs : Nat) :
    (∀ (mailbox : Mailbox) (message signal : List UInt8), mailbox.message = .file message →
      mailbox.signal = .file signal → ∀ commands : List Request,
        (∀ request ∈ commands, request.IsCommandInRange) →
          (Mailbox.link limitMs serve).answers (mailbox, { handlers }) commands =
            link.answers { handlers } commands) ∧
    (∀ (requests : List Request) (late : Late) (response : Response),
      (link.await (link.after { handlers } requests) late).1 = .ok response →
      response.header.Fits → response.returns.length ≤ late.maxReturns →
      ∀ {ρ : Type v} (react : Reaction ρ) (platform : ρ) (mailbox : Mailbox)
        (contents : List UInt8),
        ((Mailbox.link limitMs react).await
          ({ mailbox with notification := some (writeResponse (.file contents) response) },
            platform) late).1 = .ok response) ∧
    (∀ config : Base.Config,
      Handler.Fitting (fun _ handler => handler = config) ↔
        min (max config.pageSize 1) config.protocols.length ≤ 92) := by
  refine ⟨?_, ?_, Base.Config.fitting_iff⟩
  · intro mailbox message signal inMessage inSignal commands inRange
    have start : Behind allowed (mailbox, { handlers }) { handlers } :=
      ⟨⟨message, inMessage⟩, ⟨signal, inSignal⟩, rfl, allows⟩
    exact Link.answers_eq_of_related (Behind.answer fitting limitMs) start inRange
  · intro requests late response delivered inRange fits ρ react platform mailbox contents
    have posted : (link.after { handlers } requests).pending.Posted :=
      Link.after_keeps posted_answer Pending.posted_empty requests
    obtain ⟨post, rfl, rfl⟩ := delivered_was_posted posted delivered
    exact Mailbox.await_staged limitMs react platform mailbox contents post inRange fits

/-- A command that switches the first power domain off, with the completion to be told later. -/
def switchOffLater : Request :=
  .command ((Header.command Protocol.power Power.stateSet).withToken 5) [1, 0, Power.stateOff]

theorem mailbox_agrees_standard :
    (Mailbox.link Mailbox.defaultLimitMs serve).answers
        ({ message := .file [0xFF], signal := .file [] },
          { handlers := PlatformConfig.standard.switchboard.handlers })
        [switchOffLater, .command (.command Protocol.base 0) (List.replicate 26 0)] =
      link.answers { handlers := PlatformConfig.standard.switchboard.handlers }
        [switchOffLater, .command (.command Protocol.base 0) (List.replicate 26 0)] ∧
    ∃ response : Response, response.header.token = 5 ∧
      ((Mailbox.link Mailbox.defaultLimitMs Reaction.replacing).await
        ({ message := .null, signal := .null
           notification := some (writeResponse (.file []) response) }, none)
        .delayedResponse).1 = .ok response := by
  have allows : Allows (fun _ service => service.HasShortPages)
      PlatformConfig.standard.switchboard.handlers := allows_configured (by decide)
  obtain ⟨commands, late, -⟩ := mailbox_agrees Service.fitting allows Mailbox.defaultLimitMs
  refine ⟨?_, ?_⟩
  · refine commands _ [0xFF] [] rfl rfl _ fun request member => ?_
    rcases List.mem_cons.mp member with rfl | member
    · exact ⟨rfl, by decide⟩
    · cases List.mem_singleton.mp member
      exact ⟨rfl, by decide⟩
  · refine ⟨(Post.delayed ((Header.command Protocol.power Power.stateSet).withToken 5) 0
      [0, Power.stateOff]).response, rfl, ?_⟩
    exact late [switchOffLater] .delayedResponse _ (by rfl) (by decide) (by decide)
      Reaction.replacing none { message := .null, signal := .null } []

end Switchboard

end PlatformAudit
