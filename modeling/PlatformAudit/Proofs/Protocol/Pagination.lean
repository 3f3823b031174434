import PlatformAudit.Proofs.Protocol.BaseConformance
import PlatformAudit.Proofs.Protocol.Coverage
import PlatformAudit.Proofs.Protocol.ProtocolListing

/-!
# The pages of a configured platform

A configured platform lists its protocols page by page, and the plan takes the list off it page by
page.  Whatever the length of the list and of a page, each page is asked for once and the list is
found as it was configured.
-/

namespace PlatformAudit

open Dialogue

namespace Base

/-! ### Pages and their number -/

/-- The number of pages of the given length that it takes for what is left. -/
def pagesFor (left length : Nat) : Nat :=
  (left + length - 1) / length

theorem pagesFor_zero {length : Nat} (positive : 0 < length) : pagesFor 0 length = 0 := by
  rw [pagesFor, Nat.zero_add]
  exact Nat.div_eq_of_lt (by omega)

/-- One page shortens what is left. -/
theorem pagesFor_eq_succ {left length : Nat} (some : 0 < left) (positive : 0 < length) :
    pagesFor left length = pagesFor (left - length) length + 1 := by
  unfold pagesFor
  rw [← Nat.add_div_right _ positive]
  by_cases more : length ≤ left
  · have split : left - length + length - 1 + length = left + length - 1 := by omega
    rw [split]
  · have last : left - length + length - 1 + length = length - 1 + length := by omega
    have whole : left + length - 1 = left - 1 + length := by omega
    rw [last, whole, Nat.add_div_right _ positive, Nat.add_div_right _ positive,
      Nat.div_eq_of_lt (by omega), Nat.div_eq_of_lt (by omega)]

def listHeader (token : UInt16) : Header :=
  (Header.command Protocol.base discoverListProtocols).withToken token

namespace Config

variable (config : Config)

/-- How far a page takes that is not the last one. -/
def pageStep : Nat :=
  max config.pageSize 1

theorem pageStep_pos : 0 < config.pageStep :=
  Nat.lt_of_lt_of_le Nat.zero_lt_one (Nat.le_max_right _ _)

def answerTo : Request → Answer
  | .command header parameters => .ok (config.reply header parameters)
  | .await late => .error (.nothingPending late)

variable {config}

theorem answerTo_listCommand (short : config.protocols.length ≤ 255) (token : UInt16) {skip : Nat}
    (inside : skip ≤ config.protocols.length) :
    config.answerTo (listCommand token skip) =
      .ok (.answering (listHeader token) .success
        (UInt32.ofNat (config.page skip).length :: ProtocolList.pack (config.page skip))) := by
  have number : (UInt32.ofNat skip).toNat = skip := toNat_ofNat_of_short (by omega)
  have returns := config.returns_skip (UInt32.ofNat skip)
  rw [number, if_neg (by omega)] at returns
  change Except.ok (config.reply (listHeader token) [UInt32.ofNat skip]) = _
  have message : (listHeader token).message = discoverListProtocols := rfl
  rw [reply, message, returns]
  rfl

theorem page?_answerTo (short : config.protocols.length ≤ 255) (token : UInt16) {skip : Nat}
    (more : skip < config.protocols.length) :
    page? (config.answerTo (listCommand token skip)) = some (config.page skip) := by
  have few : (config.page skip).length ≤ 255 := by
    rw [page, List.length_take, List.length_drop]
    omega
  have notEmpty : config.page skip ≠ [] := by
    apply List.ne_nil_of_length_pos
    rw [page, List.length_take, List.length_drop]
    omega
  rw [answerTo_listCommand short token (Nat.le_of_lt more)]
  apply (readPage_eq_ok_iff (Response.answering_succeeded _ _) 0 0 _).mp
  exact readPage_clean 0 0 notEmpty few _

end Config

/-- A listing from a configured platform asks for each page once and finds what was configured. -/
theorem Lists.pages {config : Config} (short : config.protocols.length ≤ 255) {token : UInt16}
    {skip : Nat} {found listed : List UInt8} {exchanges : List Exchange}
    (lists : Lists config.protocols.length token found exchanges listed)
    (skipped : found = config.protocols.take skip)
    (answered : ∀ exchange ∈ exchanges, exchange.2 = config.answerTo exchange.1) :
    exchanges.map (·.1) =
        (List.range (pagesFor (config.protocols.length - skip) config.pageStep)).map
          (fun page => listCommand (Header.tokenAfter token page) (skip + page * config.pageStep)) ∧
      listed = config.protocols ∧ AllPages exchanges := by
  have positive := config.pageStep_pos
  induction lists generalizing skip with
  | complete enough =>
      subst skipped
      rw [List.length_take] at enough
      have nothing : config.protocols.length - skip = 0 := by omega
      rw [nothing, pagesFor_zero positive]
      exact ⟨rfl, List.take_of_length_le (by omega), nofun⟩
  | @stopped token found answer more noPage =>
      subst skipped
      rw [List.length_take] at more
      have inside : skip < config.protocols.length := by omega
      have length : (config.protocols.take skip).length = skip :=
        List.length_take_of_le (Nat.le_of_lt inside)
      rw [length] at answered
      have page : answer = config.answerTo (listCommand token skip) :=
        answered _ (List.mem_singleton_self _)
      rw [page, Config.page?_answerTo short token inside] at noPage
      cases noPage
  | @overrun token found ids answer more accepted beyond =>
      subst skipped
      rw [List.length_take] at more
      have inside : skip < config.protocols.length := by omega
      have length : (config.protocols.take skip).length = skip :=
        List.length_take_of_le (Nat.le_of_lt inside)
      rw [length] at answered
      have page : answer = config.answerTo (listCommand token skip) :=
        answered _ (List.mem_singleton_self _)
      rw [page, Config.page?_answerTo short token inside] at accepted
      obtain rfl := Option.some.inj accepted
      -- A page does not go beyond the list, which is short.
      have few : (config.page skip).length ≤ 255 - skip := by
        rw [Config.page, List.length_take, List.length_drop]
        omega
      rw [List.length_append, length] at beyond
      exact absurd (Nat.le_trans beyond (by omega : _ ≤ 255)) (by decide)
  | @page token found ids listed answer rest more accepted lists induction =>
      subst skipped
      rw [List.length_take] at more
      have inside : skip < config.protocols.length := by omega
      have length : (config.protocols.take skip).length = skip :=
        List.length_take_of_le (Nat.le_of_lt inside)
      rw [length] at answered
      rw [length]
      obtain ⟨page, others⟩ := List.forall_mem_cons.mp answered
      have answer_eq : answer = config.answerTo (listCommand token skip) := page
      rw [answer_eq, Config.page?_answerTo short token inside] at accepted
      obtain rfl := Option.some.inj accepted
      have joined : config.protocols.take skip ++ config.page skip =
          config.protocols.take (skip + config.pageStep) := List.take_add.symm
      obtain ⟨asks, complete, pages⟩ := induction joined others
      have count := pagesFor_eq_succ (Nat.sub_pos_of_lt inside) positive
      rw [Nat.sub_sub] at count
      refine ⟨?_, complete, List.forall_mem_cons.mpr ⟨?_, pages⟩⟩
      · rw [count, List.range_succ_eq_map, List.map_cons, List.map_cons, List.map_map, asks,
          Nat.zero_mul, Nat.add_zero, Header.tokenAfter_zero]
        congr 1
        apply List.map_congr_left
        intro page _
        have next : skip + config.pageStep + page * config.pageStep =
            skip + (page + 1) * config.pageStep := by
          rw [Nat.succ_mul, Nat.add_assoc, Nat.add_comm config.pageStep]
        rw [next]
        rfl
      · rw [answer_eq, Config.page?_answerTo short token inside]
        exact Option.some_ne_none _

end Base

namespace Switchboard

/-- The base protocol of a board is configured so. -/
def ServesBase (config : Base.Config) (board : Switchboard Service) : Prop :=
  board.handlers.get? Protocol.base = some (.base config)

namespace ServesBase

variable {config : Base.Config} {board : Switchboard Service}

theorem keeps (serves : board.ServesBase config) (request : Request) :
    (link.answer board request).2.ServesBase config := by
  have same : ∀ handler header parameters, handler = Service.base config →
      (Handler.respond handler header parameters).next = .base config := by
    rintro _ header parameters rfl
    rw [config.respond_eq]
  obtain ⟨handler, handled, rfl⟩ := answer_keeps same ⟨_, serves, rfl⟩ request
  exact handled

theorem answer (serves : board.ServesBase config) {header : Header} {parameters : List UInt32}
    (protocol : header.protocol = Protocol.base) (fits : parameters.length ≤ maxPayloadWords) :
    (link.answer board (.command header parameters)).1 =
      config.answerTo (.command header parameters) := by
  have handled : board.handlers.get? header.protocol = some (.base config) := protocol ▸ serves
  rw [answer_command handled fits (config.reply_matches header parameters)]
  dsimp only
  rw [config.respond_eq]
  rfl

end ServesBase

end Switchboard

namespace Base

open Switchboard

/-! ### The list of a configured platform -/

/-- A skip past all protocols is refused. -/
def Config.Refuses (config : Config) (refusal : Episode) : Prop :=
  ∃ response,
    refusal.exchanges =
        [(listCommand refusal.start.token (config.protocols.length + 1), .ok response)] ∧
      response.status = Status.invalidParameters.code

section Run

variable {config : Config} {board : Switchboard Service} (serves : board.ServesBase config)
  (fixture : Option Fixture) (token : UInt16)

include serves

end Run

end Base

end PlatformAudit
