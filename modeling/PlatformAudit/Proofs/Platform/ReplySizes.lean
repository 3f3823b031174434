import PlatformAudit.Platform.Config
import PlatformAudit.Proofs.Message.HeaderCodec
import PlatformAudit.Proofs.Payload.Packing
import PlatformAudit.Proofs.Protocol.PowerService

/-!
# Answers that fit into a message

One message carries the status and 24 return words.  The answers of the power protocol are short.
Of the base protocol only the list of protocols can grow beyond a message: four protocols go into a
word, so that pages of up to 92 fit.
-/

universe u

namespace PlatformAudit

/-- The response is an answer that one message carries as it is. -/
structure Response.FitsMessage (response : Response) : Prop where
  kind : response.header.kind ≠ .notification
  header : response.header.Fits
  returns : response.returns.length ≤ 24

/-- Handlers that are allowed for a protocol answer its commands with what fits into a message, and
what becomes of them is allowed again. -/
structure Handler.Fitting {α : Type u} [Handler α] (allowed : UInt8 → α → Prop) : Prop where
  response {handler : α} {header : Header} {parameters : List UInt32} :
    allowed header.protocol handler → header.kind = .command → header.Fits →
      parameters.length ≤ 25 → (Handler.respond handler header parameters).response.FitsMessage
  next {handler : α} {header : Header} {parameters : List UInt32} :
    allowed header.protocol handler → header.kind = .command → header.Fits →
      parameters.length ≤ 25 →
        allowed header.protocol (Handler.respond handler header parameters).next

/-! ### Results of computations that may fail -/

def Yields {ε : Type} {α : Type u} (property : α → Prop) (result : Except ε α) : Prop :=
  ∀ value, result = .ok value → property value

namespace Yields

variable {ε : Type} {α β : Type u} {property : α → Prop}

theorem ok {value : α} (holds : property value) :
    Yields property (.ok value : Except ε α) := by
  rintro _ ⟨⟩
  exact holds

theorem error {cause : ε} : Yields property (.error cause) := by
  rintro _ ⟨⟩

theorem bind {first : Except ε β} {second : β → Except ε α}
    (holds : ∀ value, Yields property (second value)) : Yields property (first >>= second) := by
  cases first with
  | error cause => exact error
  | ok value => exact holds value

theorem ite {condition : Prop} [Decidable condition] {first second : Except ε α}
    (holds : Yields property first) (otherwise : Yields property second) :
    Yields property (if condition then first else second) := by
  by_cases here : condition
  · rwa [if_pos here]
  · rwa [if_neg here]

end Yields

private theorem word_short (value : UInt32) : [value].length ≤ 24 := by
  rw [List.length_singleton]
  decide

private theorem name_short (text : String) :
    (FixedText.encode text Protocol.nameWords).length ≤ 23 := by
  rw [FixedText.length_encode]
  decide

/-! ### Base commands -/

namespace Base.Config

/-- The number of protocols on the first page, which is the longest one. -/
def pageLength (config : Config) : Nat :=
  min (max config.pageSize 1) config.protocols.length

theorem length_page (config : Config) (skip : Nat) :
    (config.page skip).length = min (max config.pageSize 1) (config.protocols.length - skip) := by
  rw [page, List.length_take, List.length_drop]

theorem returns_short {config : Config} (short : config.pageLength ≤ 92) (message : UInt8)
    (parameters : List UInt32) :
    Yields (·.length ≤ 24) (config.returns message parameters) := by
  have page (skip : Nat) : (ProtocolList.pack (config.page skip)).length ≤ 23 := by
    rw [ProtocolList.length_pack, length_page]
    unfold pageLength at short
    omega
  unfold returns
  refine .ite (.ok (word_short _)) <| .ite (.ok (word_short _)) <| .ite ?attributes <|
    .ite (.ok ?vendor) <| .ite (.ok ?subVendor) <| .ite (.ok (word_short _)) <| .ite ?list <|
    .ite ?agent .error
  case attributes => exact .bind fun asked => .ite (.ok (word_short 0)) .error
  case vendor => exact Nat.le_succ_of_le (name_short _)
  case subVendor => exact Nat.le_succ_of_le (name_short _)
  case list => exact .bind fun skip => .ite .error (.ok (Nat.succ_le_succ (page _)))
  case agent =>
    refine .bind fun agent => ?_
    cases config.agentName? agent with
    | none => exact .error
    | some text => exact .ok (Nat.succ_le_succ (name_short text))

theorem respond_header (config : Config) (header : Header) (parameters : List UInt32) :
    (Handler.respond config header parameters).response.header = header := by
  simp only [Handler.respond]
  cases config.returns header.message parameters <;> rfl

theorem respond_next (config : Config) (header : Header) (parameters : List UInt32) :
    (Handler.respond config header parameters).next = config :=
  rfl

theorem respond_returns (config : Config) (header : Header) (parameters : List UInt32) :
    (Handler.respond config header parameters).response.returns =
      match config.returns header.message parameters with
      | .ok returns => returns
      | .error _ => [] := by
  simp only [Handler.respond]
  cases config.returns header.message parameters <;> rfl

/-- The answers of a base handler fit into a message exactly if its longest page does. -/
theorem fitting_iff (config : Config) :
    Handler.Fitting (fun _ handler => handler = config) ↔ config.pageLength ≤ 92 := by
  constructor
  · intro fitting
    let header := Header.command Protocol.base discoverListProtocols
    have first : (Handler.respond config header [0]).response.returns.length ≤ 24 :=
      (fitting.response rfl rfl (by decide) (by decide)).returns
    have listed : config.returns header.message [0] =
        .ok (UInt32.ofNat (config.page 0).length :: ProtocolList.pack (config.page 0)) := rfl
    rw [respond_returns, listed] at first
    simp only [List.length_cons, ProtocolList.length_pack, length_page] at first
    unfold pageLength
    omega
  · intro short
    refine ⟨?_, fun same _ _ _ => by rw [same, respond_next]⟩
    intro handler header parameters same command inRange _
    subst handler
    refine ⟨?_, ?_, ?_⟩
    · rw [respond_header, command]
      decide
    · rw [respond_header]
      exact inRange
    · rw [respond_returns]
      have yields := returns_short short header.message parameters
      cases returned : config.returns header.message parameters with
      | ok returns => exact yields returns returned
      | error status => exact Nat.zero_le _

end Base.Config

/-! ### Power commands -/

namespace Power.Service

theorem reply_fits (service : Service) {header : Header} (command : header.kind = .command)
    (inRange : header.Fits) (parameters : List UInt32) :
    (Handler.respond service header parameters).response.FitsMessage := by
  have notLate : header.kind ≠ .notification := by
    rw [command]
    decide
  simp only [Handler.respond]
  rcases Handling.carriesOut_or_refuses (perform_ends service header parameters) with
    ⟨outcome, carriesOut, short, -⟩ | ⟨status, refuses, -⟩
  · rw [carriesOut.reply]
    exact ⟨notLate, inRange, short⟩
  · rw [refuses.reply]
    exact ⟨notLate, inRange, Nat.zero_le _⟩

end Power.Service

/-! ### Configured platforms -/

/-- The service lists its protocols, if it does so, on pages that fit into a message. -/
def Service.HasShortPages : Service → Prop
  | .base config => config.pageLength ≤ 92
  | .power _ => True

/-- The services of a configured platform answer with what fits into a message. -/
theorem Service.fitting : Handler.Fitting fun _ service => Service.HasShortPages service where
  response {service header parameters} short command inRange few := by
    cases service with
    | base config => exact (config.fitting_iff.mpr short).response rfl command inRange few
    | power service => exact service.reply_fits command inRange parameters
  next {service header parameters} short _ _ _ := by
    cases service with
    | base config =>
        change (Handler.respond config header parameters).next.pageLength ≤ 92
        rw [Base.Config.respond_next]
        exact short
    | power service => trivial

end PlatformAudit
