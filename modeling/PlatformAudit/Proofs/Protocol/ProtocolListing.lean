import PlatformAudit.Proofs.Audit.Findings
import PlatformAudit.Proofs.Message.Tokens
import PlatformAudit.Proofs.Protocol.Distinct
import PlatformAudit.Proofs.Protocol.OptionalCommands
import PlatformAudit.Proofs.Word.BitRange
import PlatformAudit.Proofs.Word.LittleEndian

/-!
# The list of protocols against any platform

The list of protocols is asked for page by page, and the platform says how many protocols a page
holds.  Whatever it says, and wherever it stops answering, each command asks for the protocols
behind those that were accepted so far, so that no more commands are sent than protocols were
announced.  The list that is kept holds what was accepted and nothing else.
-/

universe w

namespace PlatformAudit

open Dialogue

namespace Base

/-! ### Pages -/

/-- The identifiers of a page, if it is one: the answer is a success, it announces at least one
identifier, and its words have room for as many as it announces. -/
def page? : Answer → Option (List UInt8)
  | .error _ => none
  | .ok response =>
      match response.returns with
      | [] => none
      | count :: words =>
          if response.Succeeded ∧ count ≠ 0 ∧ count.toNat ≤ 4 * words.length then
            some (ProtocolList.unpack words count.toNat)
          else none

/-- The identifiers on the pages among some answers. -/
def taken (exchanges : List Exchange) : List UInt8 :=
  exchanges.flatMap fun exchange => (page? exchange.2).getD []

@[simp] theorem taken_nil : taken [] = [] := rfl

@[simp] theorem taken_cons (exchange : Exchange) (rest : List Exchange) :
    taken (exchange :: rest) = (page? exchange.2).getD [] ++ taken rest := rfl

theorem page?_eq_some_iff (response : Response) (ids : List UInt8) :
    page? (.ok response) = some ids ↔
      ∃ count words, response.returns = count :: words ∧ response.Succeeded ∧ count ≠ 0 ∧
        count.toNat ≤ 4 * words.length ∧ ids = ProtocolList.unpack words count.toNat := by
  cases returns : response.returns with
  | nil => simp [page?, returns]
  | cons count words =>
      simp only [page?, returns]
      split
      case isTrue accepted => simp [accepted, eq_comm]
      case isFalse refused =>
        simp only [reduceCtorEq, List.cons.injEq, false_iff]
        rintro ⟨_, _, ⟨rfl, rfl⟩, succeeded, positive, room, -⟩
        exact refused ⟨succeeded, positive, room⟩

theorem length_unpack {words : List UInt32} {count : Nat} (room : count ≤ 4 * words.length) :
    (ProtocolList.unpack words count).length = count := by
  rw [ProtocolList.unpack, List.length_take, LittleEndian.length_bytesOfWords]
  exact Nat.min_eq_left room

theorem page?_length_pos {answer : Answer} {ids : List UInt8} (accepted : page? answer = some ids) :
    0 < ids.length := by
  cases answer with
  | error cause => cases accepted
  | ok response =>
      obtain ⟨count, words, -, -, positive, room, rfl⟩ :=
        (page?_eq_some_iff response ids).mp accepted
      rw [length_unpack room]
      exact Nat.pos_of_ne_zero fun zero => positive (UInt32.toNat_inj.mp zero)

theorem readPage_eq_ok_iff {response : Response} (succeeded : response.Succeeded)
    (total skip : UInt32) (ids : List UInt8) :
    readPage total skip response = .ok ids ↔ page? (.ok response) = some ids := by
  cases returns : response.returns with
  | nil => simp [readPage, entryCount, Response.word?, page?, returns]
  | cons count words =>
      have full_iff : (ProtocolList.unpack words count.toNat).length = count.toNat ↔
          count.toNat ≤ 4 * words.length := by
        rw [ProtocolList.unpack, List.length_take, LittleEndian.length_bytesOfWords]
        omega
      simp only [readPage, entryCount, Response.word?, returns, page?, succeeded,
        List.getElem?_cons_zero, Option.getD_some, List.drop_one, List.tail_cons, full_iff, true_and]
      by_cases empty : count = 0
      · simp [empty]
      · by_cases room : count.toNat ≤ 4 * words.length <;> simp [empty, room]

theorem page?_of_refused {response : Response} (refused : ¬response.Succeeded) :
    page? (.ok response) = none := by
  refine Option.eq_none_iff_forall_ne_some.mpr fun ids accepted => refused ?_
  obtain ⟨_, _, _, succeeded, _⟩ := (page?_eq_some_iff response ids).mp accepted
  exact succeeded

theorem page?_of_readPage_error {response : Response} (succeeded : response.Succeeded)
    {total skip : UInt32} {detail : String} (wrong : readPage total skip response = .error detail) :
    page? (.ok response) = none := by
  refine Option.eq_none_iff_forall_ne_some.mpr fun ids accepted => ?_
  cases wrong.symm.trans ((readPage_eq_ok_iff succeeded total skip ids).mpr accepted)

/-! ### Listings -/

/-- The command that asks for the protocols behind those that are skipped. -/
def listCommand (token : UInt16) (skip : Nat) : Request :=
  .command ((Header.command Protocol.base discoverListProtocols).withToken token)
    [UInt32.ofNat skip]

/-- The exchanges of a listing from what was found before, and the protocols found in the end.  It
stops at the first answer that is no page, and where more was found than a word can count. -/
inductive Lists (total : Nat) : UInt16 → List UInt8 → List Exchange → List UInt8 → Prop where
  | complete {token : UInt16} {found : List UInt8} (enough : ¬found.length < total) :
      Lists total token found [] found
  | stopped {token : UInt16} {found : List UInt8} {answer : Answer} (more : found.length < total)
      (noPage : page? answer = none) :
      Lists total token found [(listCommand token found.length, answer)] found
  | overrun {token : UInt16} {found ids : List UInt8} {answer : Answer}
      (more : found.length < total)
      (accepted : page? answer = some ids) (beyond : UInt32.size ≤ (found ++ ids).length) :
      Lists total token found [(listCommand token found.length, answer)] (found ++ ids)
  | page {token : UInt16} {found ids listed : List UInt8} {answer : Answer} {rest : List Exchange}
      (more : found.length < total) (accepted : page? answer = some ids)
      (lists : Lists total (Header.nextToken token) (found ++ ids) rest listed) :
      Lists total token found ((listCommand token found.length, answer) :: rest) listed

namespace Lists

variable {total : Nat} {token : UInt16} {found listed : List UInt8} {exchanges : List Exchange}

/-- Exactly what was on the pages is found. -/
theorem listed_eq (lists : Lists total token found exchanges listed) :
    listed = found ++ taken exchanges := by
  induction lists with
  | complete enough => simp
  | stopped more noPage => simp [noPage]
  | overrun more accepted beyond => simp [accepted]
  | page more accepted lists induction => simp [accepted, induction]

/-- Every page shortens what is missing. -/
theorem length_le (lists : Lists total token found exchanges listed) :
    exchanges.length ≤ total - found.length := by
  induction lists with
  | complete enough => exact Nat.zero_le _
  | stopped more noPage =>
      rw [List.length_singleton]
      omega
  | overrun more accepted beyond =>
      rw [List.length_singleton]
      omega
  | page more accepted lists induction =>
      have positive := page?_length_pos accepted
      rw [List.length_append] at induction
      rw [List.length_cons]
      omega

/-- Each command skips what was found before it, which is less than what was announced. -/
theorem asks (lists : Lists total token found exchanges listed) {position : Nat} {request : Request}
    {answer : Answer} (asked : exchanges[position]? = some (request, answer)) :
    request = listCommand (Header.tokenAfter token position)
        (found.length + (taken (exchanges.take position)).length) ∧
      found.length + (taken (exchanges.take position)).length < total := by
  induction lists generalizing position with
  | complete enough => cases asked
  | stopped more noPage =>
      cases position with
      | zero =>
          obtain ⟨rfl, rfl⟩ := Prod.mk.inj (Option.some.inj asked)
          exact ⟨rfl, more⟩
      | succ position => cases asked
  | overrun more accepted beyond =>
      cases position with
      | zero =>
          obtain ⟨rfl, rfl⟩ := Prod.mk.inj (Option.some.inj asked)
          exact ⟨rfl, more⟩
      | succ position => cases asked
  | page more accepted lists induction =>
      cases position with
      | zero =>
          obtain ⟨rfl, rfl⟩ := Prod.mk.inj (Option.some.inj asked)
          exact ⟨rfl, more⟩
      | succ position =>
          rw [List.getElem?_cons_succ] at asked
          have later := induction asked
          rw [List.length_append] at later
          simpa [accepted, Nat.add_assoc, Header.tokenAfter_succ] using later

/-- What is skipped grows from command to command, since only a page lets the listing go on. -/
theorem ascending (lists : Lists total token found exchanges listed) {first second : Nat}
    (before : first < second) (inside : second < exchanges.length) :
    (taken (exchanges.take first)).length < (taken (exchanges.take second)).length := by
  induction lists generalizing first second with
  | complete enough => simp at inside
  | stopped more noPage =>
      rw [List.length_singleton] at inside
      omega
  | overrun more accepted beyond =>
      rw [List.length_singleton] at inside
      omega
  | page more accepted lists induction =>
      have positive := Nat.ne_of_gt (Nat.zero_lt_of_lt before)
      obtain ⟨second, rfl⟩ := Nat.exists_eq_succ_of_ne_zero positive
      rw [List.length_cons] at inside
      cases first with
      | zero =>
          have positive := page?_length_pos accepted
          simp only [List.take_zero, taken_nil, List.length_nil, List.take_succ_cons, taken_cons,
            accepted, Option.getD_some, List.length_append]
          omega
      | succ first =>
          have later := induction (Nat.lt_of_succ_lt_succ before) (Nat.lt_of_succ_lt_succ inside)
          simp only [List.take_succ_cons, taken_cons, List.length_append]
          omega

end Lists

variable {σ : Type w} {respond : Responder σ}

def AllPages (exchanges : List Exchange) : Prop :=
  ∀ exchange ∈ exchanges, page? exchange.2 ≠ none

theorem not_allPages {answer : Answer} (noPage : page? answer = none) (request : Request) :
    ¬AllPages [(request, answer)] :=
  fun pages => pages _ (List.mem_singleton_self _) noPage

/-- What is noted about the answers if all of them are pages. -/
def pageChecks (expected : List Descriptor) (exchanges : List Exchange) : List Check :=
  exchanges.flatMap fun exchange => CaseRun.looksAt expected exchange.2

/-- What is skipped is as much as was found, and stays so from page to page. -/
theorem skip_after_page {skip next : UInt32} {found ids : List UInt8} {response : Response}
    (skipped : skip.toNat = found.length) (length : ids.length = (entryCount response).toNat)
    (added : Word.add? skip (entryCount response) = some next) :
    next.toNat = (found ++ ids).length := by
  rw [Word.toNat_of_add? added, skipped, List.length_append, length]

/-- The pages of a list are asked for as told, whoever answers. -/
theorem carries_listPages {case : Case} (listing : case = protocolListCases[0])
    (total skip : UInt32) (found : List UInt8) (skipped : skip.toNat = found.length)
    (before : CaseState) (state : σ) :
    Carries respond (CaseRun.playScript case (listPages total skip found)) before state
      fun exchanges listed after _ =>
        Lists total.toNat before.token found exchanges listed ∧ after.context = before.context ∧
          (AllPages exchanges →
            after.checks = before.checks ++ pageChecks before.expected exchanges) := by
  have immediate : case.delayed = none := congrArg Case.delayed listing
  have command (token : UInt16) (skip : Nat) :
      Request.command (CaseRun.nextHeader case case.message token) [UInt32.ofNat skip] =
        listCommand token skip := by
    rw [listing]
    rfl
  have silent : case.hooks.onSilence = .done () := by
    rw [listing]
    rfl
  have indifferent : case.hooks.afterResponse = fun _ => .done () := by
    rw [listing]
    rfl
  have accepts (context : Context) : CaseRun.statusFor case none context = .exact .success := by
    rw [listing]
    rfl
  induction skip, found using listPages.induct total generalizing before state with
  | case1 skip found incomplete induction =>
      have more : found.length < total.toNat := skipped ▸ UInt32.lt_iff_toNat_lt.mp incomplete
      have asks : skip = UInt32.ofNat found.length := by
        rw [← skipped, UInt32.ofNat_toNat]
      rw [listPages_eq, if_pos incomplete, CaseRun.carries_playScript_checked, asks]
      rcases answer : respond state (.command (CaseRun.nextHeader case case.message before.token)
        [UInt32.ofNat found.length]) with ⟨cause | response, next⟩
      · rw [CaseRun.carries_sendChecked_unanswered answer, command, silent,
          CaseRun.carries_playPlain_done]
        exact ⟨.stopped more rfl, rfl, fun pages => absurd pages (not_allPages rfl _)⟩
      rw [CaseRun.carries_sendChecked_answered answer (.inl immediate), command, indifferent,
        CaseRun.carries_playPlain_done]
      have context : (CaseRun.checked case none before response).context = before.context := rfl
      dsimp only
      by_cases succeeded : response.Succeeded
      case neg =>
        rw [if_neg succeeded]
        have noPage := page?_of_refused succeeded
        exact ⟨.stopped more noPage, context, fun pages => absurd pages (not_allPages noPage _)⟩
      rw [if_pos succeeded]
      rw [← asks]
      cases read : readPage total skip response with
      | error detail =>
          have noPage := page?_of_readPage_error succeeded read
          exact ⟨.stopped more noPage, context, fun pages => absurd pages (not_allPages noPage _)⟩
      | ok ids =>
          have accepted := (readPage_eq_ok_iff succeeded total skip ids).mp read
          have length := (length_of_readPage read).2
          dsimp only
          cases added : Word.add? skip (entryCount response) with
          | none =>
              have beyond : UInt32.size ≤ (found ++ ids).length := by
                rw [List.length_append, ← skipped, length]
                exact Nat.not_lt.mp fun fits => by simp [Word.add?_of_fits fits] at added
              refine ⟨.overrun more accepted beyond, context, fun _ => ?_⟩
              simp [CaseRun.checked, accepts, pageChecks, CaseRun.looksAt]
          | some after =>
              apply (induction response ids read after added
                (skip_after_page skipped length added) _ next).mono
              rintro _ listed _ _ ⟨lists, kept, checks⟩
              refine ⟨.page more accepted lists, kept.trans context, fun pages => ?_⟩
              rw [checks fun exchange member => pages exchange (List.mem_cons_of_mem _ member)]
              simp [CaseRun.checked, accepts, pageChecks, CaseRun.looksAt]
  | case2 skip found enough =>
      rw [listPages_eq, if_neg enough]
      rw [UInt32.lt_iff_toNat_lt, skipped] at enough
      exact ⟨.complete enough, rfl, fun _ => (List.append_nil _).symm⟩

/-- Without an announced number nothing is asked, and the case tells so. -/
theorem perform?_unannounced {case : Case} (listing : case = protocolListCases[0])
    {before : CaseState} (unknown : before.context.discovered.value? Entity.protocolCount = none)
    (state : σ) :
    Carries respond (CaseRun.perform? case) before state
      fun exchanges _ after _ => exchanges = [] ∧ ∃ check ∈ after.checks, ¬check.IsClean := by
  have execute : case.hooks.execute = listProtocols := by
    rw [listing]
    rfl
  rw [CaseRun.perform?, carries_bind, execute, listProtocols,
    CaseRun.carries_playScript_context, unknown]
  refine ⟨rfl, _, List.mem_append_right _ (List.mem_singleton_self _), fun clean => ?_⟩
  exact clean.2 rfl

/-- With an announced number the pages are asked for, and what was found is looked at and kept. -/
theorem perform?_announced {case : Case} (listing : case = protocolListCases[0])
    {before : CaseState} {total : UInt32}
    (announced : before.context.discovered.value? Entity.protocolCount = some total) (state : σ) :
    Carries respond (CaseRun.perform? case) before state
      fun exchanges _ after _ =>
        Lists total.toNat before.token [] exchanges (taken exchanges) ∧
          countCheck total.toNat (taken exchanges) ∈ after.checks ∧
          listCheck (taken exchanges) ∈ after.checks ∧
          after.context.discovered.list Entity.protocols =
            (taken exchanges).map (·.toUInt32) ∧
          (AllPages exchanges →
            after.checks = before.checks ++ pageChecks before.expected exchanges ++
              [countCheck total.toNat (taken exchanges), listCheck (taken exchanges)]) := by
  have execute : case.hooks.execute = listProtocols := by
    rw [listing]
    rfl
  rw [CaseRun.perform?, carries_bind, execute, listProtocols, CaseRun.carries_playScript_context,
    announced]
  dsimp only
  rw [CaseRun.carries_playScript_bind]
  apply (carries_listPages listing total 0 [] rfl before state).mono
  rintro exchanges listed between _ ⟨lists, -, checks⟩
  obtain rfl : listed = taken exchanges := lists.listed_eq
  simp only [CaseRun.play, carries_bind, CaseRun.carries_perform, carries_pure, List.append_nil]
  refine ⟨lists, ?_, ?_, ?_, fun pages => ?_⟩
  · simp [Effect.checks]
  · simp [Effect.checks]
  · simp [Effect.apply, Context.discover, Discovery.list_record]
  · simp [Effect.checks, checks pages]

/-- What the case that lists the protocols does if a number of them was announced, and what it keeps
of them. -/
structure Listing (total : UInt32) (token : UInt16) (exchanges : List Exchange)
    (report : CaseReport) (protocols : List UInt32) : Prop where
  few : exchanges.length ≤ total.toNat
  /-- Each command skips what was accepted before it. -/
  asks {position : Nat} {request : Request} {answer : Answer} :
    exchanges[position]? = some (request, answer) →
      request =
          listCommand (Header.tokenAfter token position) (taken (exchanges.take position)).length ∧
        (taken (exchanges.take position)).length < total.toNat
  ascending {first second : Nat} :
    first < second → second < exchanges.length →
      (taken (exchanges.take first)).length < (taken (exchanges.take second)).length
  /-- What is skipped next is the sum of what was skipped and what the page announces.  It is a
  number of 32 bits too, so that the addition never fails. -/
  adds {position : Nat} {request : Request} {response : Response} {ids : List UInt8} :
    exchanges[position]? = some (request, .ok response) → page? (.ok response) = some ids →
      ∃ count, response.word? 0 = some count ∧
        Word.add? (UInt32.ofNat (taken (exchanges.take position)).length) count =
          some (UInt32.ofNat (taken (exchanges.take (position + 1))).length) ∧
        (UInt32.ofNat (taken (exchanges.take position)).length + count).toNat =
          (taken (exchanges.take (position + 1))).length
  recorded : protocols = (taken exchanges).map (·.toUInt32)
  conforms :
    report.verdict = .conformant →
      (taken exchanges).length = total.toNat ∧ (taken exchanges).Nodup ∧ 0x10 ∉ taken exchanges

theorem countCheck_isClean_iff (total : Nat) (found : List UInt8) :
    (countCheck total found).IsClean ↔ found.length = total := by
  unfold countCheck
  split <;> simp [Check.IsClean, *]

theorem listCheck_isClean_iff (found : List UInt8) :
    (listCheck found).IsClean ↔ found.Nodup ∧ Protocol.base ∉ found := by
  rw [listCheck_eq]
  split <;> simp [Check.IsClean, *]

/-- One message has room for no more than 92 identifiers beside their number. -/
theorem page?_length_le {response : Response} (short : response.returns.length ≤ 24)
    {ids : List UInt8} (accepted : page? (.ok response) = some ids) :
    ∃ count, response.word? 0 = some count ∧ ids.length = count.toNat ∧ count.toNat ≤ 92 := by
  obtain ⟨count, words, returns, -, -, room, rfl⟩ := (page?_eq_some_iff response ids).mp accepted
  refine ⟨count, by rw [Response.word?, returns]; rfl, length_unpack room, ?_⟩
  rw [returns, List.length_cons] at short
  omega

/-- A listing that follows the pages is as it should be. -/
theorem Lists.listing {total : UInt32} (small : total ≤ 255) {token : UInt16}
    {exchanges : List Exchange}
    (lists : Lists total.toNat token [] exchanges (taken exchanges))
    (short : ∀ exchange ∈ exchanges, ∀ response, exchange.2 = .ok response →
      response.returns.length ≤ 24)
    {report : CaseReport} (counted : countCheck total.toNat (taken exchanges) ∈ report.checks)
    (looked : listCheck (taken exchanges) ∈ report.checks)
    (finished : report.IsFinished) {protocols : List UInt32}
    (recorded : protocols = (taken exchanges).map (·.toUInt32)) :
    Listing total token exchanges report protocols where
  few := lists.length_le
  asks asked := by simpa using lists.asks asked
  ascending := lists.ascending
  adds {position request response ids} asked accepted := by
    obtain ⟨count, word, length, room⟩ :=
      page?_length_le (short _ (List.mem_of_getElem? asked) response rfl) accepted
    have below := (lists.asks asked).2
    have bound : total.toNat ≤ 255 := UInt32.le_iff_toNat_le.mp small
    rw [List.length_nil, Nat.zero_add] at below
    have next : taken (exchanges.take (position + 1)) =
        taken (exchanges.take position) ++ ids := by
      simp [List.take_add_one, asked, taken, accepted]
    have skipped : (UInt32.ofNat (taken (exchanges.take position)).length).toNat =
        (taken (exchanges.take position)).length := by
      rw [UInt32.toNat_ofNat']
      omega
    have fits : (UInt32.ofNat (taken (exchanges.take position)).length).toNat + count.toNat <
        UInt32.size := by
      rw [skipped]
      exact Nat.lt_of_le_of_lt (by omega : _ ≤ 347) (by decide)
    have added := Word.add?_of_fits fits
    have sum : (UInt32.ofNat (taken (exchanges.take position)).length + count).toNat =
        (taken (exchanges.take (position + 1))).length := by
      rw [Word.toNat_of_add? added, skipped, next, List.length_append, length]
    refine ⟨count, word, ?_, sum⟩
    rw [added, ← sum, UInt32.ofNat_toNat]
  recorded := recorded
  conforms conformant := by
    have clean := CaseReport.isClean_of_classify_eq_conformant
      (finished.symm.trans conformant)
    have distinct := (listCheck_isClean_iff _).mp (clean _ looked)
    exact ⟨(countCheck_isClean_iff _ _).mp (clean _ counted), distinct⟩

def ListsAnnounced (announced : Option UInt32) (token : UInt16) (exchanges : List Exchange)
    (report : CaseReport) (protocols : List UInt32) : Prop :=
  match announced with
  | none => exchanges = [] ∧ report.verdict ≠ .conformant
  | some total => total ≤ 255 → Listing total token exchanges report protocols

/-- The case that lists the protocols, against any platform whose answers fit into a message. -/
theorem runCase_lists {case : Case} (listing : case = protocolListCases[0])
    (short : ∀ state request response, (respond state request).1 = .ok response →
      response.returns.length ≤ 24)
    (carried : PlanState) (state : σ) :
    Carries respond (PlanRun.runCase plan case) carried state
      fun exchanges report after _ =>
        ListsAnnounced (carried.context.discovered.value? Entity.protocolCount) carried.token
          exchanges report (after.context.discovered.list Entity.protocols) := by
  have free : PlanRun.obstacle? case carried.context = none := by
    rw [listing]
    rfl
  rw [PlanRun.carries_runCase plan free, ← PlanRun.startOf_context plan case]
  cases announced :
      (PlanRun.startOf plan case carried).context.discovered.value? Entity.protocolCount with
  | none =>
      apply (perform?_unannounced listing announced state).mono
      rintro _ _ finish _ ⟨rfl, check, member, wrong⟩
      refine ⟨rfl, fun conformant => wrong ?_⟩
      exact CaseReport.isClean_of_classify_eq_conformant conformant check member
  | some total =>
      apply ((perform?_announced listing announced state).and (carries_answered _ _ _)).mono
      rintro exchanges _ finish _ ⟨⟨lists, counted, looked, recorded, -⟩, answered⟩ small
      have fits : ∀ exchange ∈ exchanges, ∀ response, exchange.2 = .ok response →
          response.returns.length ≤ 24 := by
        intro exchange member response answer
        obtain ⟨before, given⟩ := answered exchange member
        exact short before exchange.1 response (given.trans answer)
      refine lists.listing small fits counted looked (CaseReport.finish_isFinished _) ?_
      rw [PlanRun.discovered_settle, recorded]

/-! ### Announced numbers -/

/-- The announced number of protocols, if there is one, is a number of eight bits. -/
def AnnouncesFew (context : Context) : Prop :=
  ∀ total, context.discovered.value? Entity.protocolCount = some total → total ≤ 255

/-- What cases may do that announce no more protocols than fit into eight bits. -/
def announcing : Licence where
  effect effect :=
    ∀ value, effect = .discover (.setValue Entity.protocolCount value) → value ≤ 255
  command _ _ := True
  checks _ := nofun

theorem AnnouncesFew.apply {context : Context} (few : AnnouncesFew context) {effect : Effect}
    (licensed : announcing.effect effect) : AnnouncesFew (effect.apply context) := by
  cases effect with
  | check check => exact few
  | decide suite mustRun =>
      intro total announced
      refine few total ?_
      simp only [Effect.apply, Context.decideSuite_eq] at announced
      split at announced <;> exact announced
  | discover edit =>
      cases edit with
      | record name ids => exact few
      | extend name ids => exact few
      | setValue name value =>
          intro total announced
          have found : (context.discovered.edit (.setValue name value)).value?
              Entity.protocolCount = some total := announced
          rw [Discovery.value?_setValue] at found
          split at found
          case isTrue same =>
            cases found
            exact licensed value (by rw [same])
          case isFalse => exact few total found

theorem keepAttributes_announcing (response : Response) :
    ∀ effect ∈ keepAttributes response, announcing.effect effect := by
  intro effect member value same
  rcases mem_keepAttributes member with ⟨word, rfl⟩ | ⟨word, rfl⟩ | ⟨ids, rfl⟩
  · obtain rfl : protocolCount.read word = value := by simpa using same
    exact protocolCount.read_le_maxValue word
  · simp [Entity.agentCount, Entity.protocolCount] at same
  · cases same

theorem cases_announcing : ∀ case ∈ plan.cases, case.Within announcing := by
  intro case inPlan
  exact case_within (fun _ _ => trivial) (fun _ _ => nofun) (fun _ _ => nofun) inPlan
    fun _ => keepAttributes_announcing

/-- A case of the base protocol leaves no larger number announced than it has found. -/
theorem AnnouncesFew.episode {case : Case} (inPlan : case ∈ plan.cases) {carried : PlanState}
    (few : AnnouncesFew carried.context) (state : σ) :
    AnnouncesFew (PlanRun.episode respond plan case carried state).after.context := by
  refine PlanRun.episode_keeps ?_ ?_ (cases_announcing case inPlan) few state
  · exact fun effect context licensed few => few.apply licensed
  · intro case verdict status context few
    rw [AnnouncesFew, PlanRun.discovered_settle]
    exact few

/-- Wherever a case of the base protocol begins, the announced number is one of eight bits. -/
theorem few_announced (respond : Responder σ) (fixture : Option Fixture) (token : UInt16)
    (state : σ)
    {chapter : Chapter} (member : chapter ∈ plan.chronicle respond fixture token state)
    {episode : Episode} (inside : episode ∈ chapter.episodes) :
    AnnouncesFew episode.start.context := by
  have begins : AnnouncesFew (plan.context fixture) := by
    intro total announced
    have nothing : (plan.context fixture).discovered.value? Entity.protocolCount = none := rfl
    cases nothing.symm.trans announced
  refine Plan.holds_at_start respond fixture token state ?_ begins ?_ member inside
  · intro earlier later goesOn few
    rw [AnnouncesFew, goesOn.discovered_eq]
    exact few
  · exact fun case inPlan carried state few => few.episode inPlan state

theorem listing_of_id {case : Case} (inPlan : case ∈ plan.cases)
    (id : case.id = "base.list_protocols") : case = protocolListCases[0] := by
  have cases_eq : plan.cases =
      (discoveryCases ++ identificationCases) ++ protocolListCases[0] ::
        (protocolListCases.drop 1 ++ agentCases) := rfl
  have before : ∀ case ∈ discoveryCases ++ identificationCases,
      case.id ≠ "base.list_protocols" := by decide
  have behind : ∀ case ∈ protocolListCases.drop 1 ++ agentCases,
      case.id ≠ "base.list_protocols" := by decide
  rw [cases_eq] at inPlan
  rcases List.mem_append.mp inPlan with early | late
  · exact absurd id (before case early)
  · rcases List.mem_cons.mp late with here | later
    · exact here
    · exact absurd id (behind case later)

/-- Against any platform whose answers fit into a message, in any run of the base protocol: the case
that lists the protocols asks for them page by page. -/
theorem run_lists_protocols (respond : Responder σ)
    (short : ∀ state request response, (respond state request).1 = .ok response →
      response.returns.length ≤ 24) :
    (∀ carried state, Carries respond (PlanRun.runCase plan protocolListCases[0]) carried state
      fun exchanges report after _ =>
        ListsAnnounced (carried.context.discovered.value? Entity.protocolCount) carried.token
          exchanges report (after.context.discovered.list Entity.protocols)) ∧
    ∀ fixture token state journal,
      let chronicle := plan.chronicle respond fixture token state
      (plan.runFrom fixture token).transcript respond state = chronicle.flatMap Chapter.exchanges ∧
      ((plan.runFrom fixture token).run respond state journal).value.1.suites =
        chronicle.map Chapter.report ∧
      ∀ chapter ∈ chronicle, ∀ episode ∈ chapter.episodes, episode.case.id = "base.list_protocols" →
        let announced := episode.start.context.discovered.value? Entity.protocolCount
        (∀ total, announced = some total → total ≤ 255) ∧
          ListsAnnounced announced episode.start.token episode.exchanges episode.report
            (episode.after.context.discovered.list Entity.protocols) := by
  refine ⟨runCase_lists rfl short, fun fixture token state journal => ?_⟩
  intro chronicle
  refine ⟨plan.transcript_run respond fixture token state,
    plan.suites_run respond fixture token state journal, ?_⟩
  intro chapter member episode inside id announced
  refine ⟨few_announced respond fixture token state member inside, ?_⟩
  obtain ⟨case, inPlan, carried, before, rfl⟩ :=
    plan.exists_of_mem_chronicle respond fixture token state member inside
  exact PlanRun.episode_of_carries (runCase_lists (listing_of_id inPlan id) short carried before)

/-- A platform with two good pages, of four and of three protocols, which then announces nine more
and carries four. -/
def overstating : Responder Unit := fun _ request =>
  let page : List UInt32 :=
    match request with
    | .command _ [0] => [4, 0x14131211]
    | .command _ [4] => [3, 0x171615]
    | _ => [9, 0x1B1A1918]
  let header := Header.command Protocol.base discoverListProtocols
  (.ok { header, status := Status.success.code, returns := page }, ())

/-- Two pages are taken off the platform, each asked for behind the one before it.  Nothing is taken
from the third one, which ends the list, and so the platform does not conform. -/
theorem run_lists_protocols_overstated :
    let announced := (plan.context none).discover (.setValue Entity.protocolCount 9)
    Carries overstating (PlanRun.runCase plan protocolListCases[0])
      { token := 0, context := announced } ()
      fun exchanges report after _ =>
        exchanges.map (·.1) = [listCommand 0 0, listCommand 1 4, listCommand 2 7] ∧
          after.context.discovered.list Entity.protocols =
            [0x11, 0x12, 0x13, 0x14, 0x15, 0x16, 0x17] ∧
          report.verdict ≠ .conformant := by
  intro announced
  let carried : PlanState := { token := 0, context := announced }
  have short : ∀ state request response, (overstating state request).1 = .ok response →
      response.returns.length ≤ 24 := by
    intro state request response answer
    unfold overstating at answer
    dsimp only at answer
    split at answer <;> cases answer <;> exact by decide
  have asked : Carries overstating (PlanRun.runCase plan protocolListCases[0]) carried ()
      fun exchanges _ _ _ =>
        exchanges.map (·.1) = [listCommand 0 0, listCommand 1 4, listCommand 2 7] ∧
          taken exchanges = [0x11, 0x12, 0x13, 0x14, 0x15, 0x16, 0x17] :=
    (leads_iff _ _ { sink := .nowhere } _).mpr (by decide +kernel)
  have lists := (run_lists_protocols overstating short).1 carried ()
  apply (asked.and lists).mono
  rintro exchanges report after _ ⟨⟨requests, found⟩, listing⟩
  have listing : Listing 9 0 exchanges report _ := listing (by decide)
  refine ⟨requests, ?_, fun conformant => ?_⟩
  · rw [listing.recorded, found]
    rfl
  · have complete := (listing.conforms conformant).1
    rw [found] at complete
    cases complete

end Base

end PlatformAudit
