import PlatformAudit.Proofs.Audit.Stamps
import PlatformAudit.Proofs.Audit.Turns
import PlatformAudit.Proofs.Protocol.OptionalCommands
import PlatformAudit.Proofs.Protocol.PowerConformance
import PlatformAudit.Proofs.Protocol.PowerStates

/-!
# Watching a domain that tells nothing

A platform that tells about changes may do so for some of its domains only.  The plan watches the
first domain whatever is declared about it, and expects success.  So a platform that refuses, as it
is declared to do, is found at fault.
-/

namespace PlatformAudit

open Dialogue

/-! ### What a board keeps -/

namespace Switchboard

variable {config : Power.Config} {board : Switchboard Service}

/-- The power protocol of a board is configured so, in whatever states its domains are. -/
def IsConfigured (config : Power.Config) (board : Switchboard Service) : Prop :=
  ∃ service, board.ServesPower service ∧ service.Configured config

/-- The power protocol of a board runs as configured, nobody waits for changes of a domain, and no
notification is left over. -/
structure IsQuiet (config : Power.Config) (board : Switchboard Service) : Prop where
  serves : ∃ service, board.ServesPower service ∧ service.Runs config
  silent : board.pending.notifications = []

/-- A request that is no command of another protocol and does not ask for notifications. -/
def SparesNotifications (request : Request) : Prop :=
  ∀ header parameters, request = .command header parameters →
    header.protocol = Protocol.power ∧ header.message ≠ Power.stateNotify

theorem IsConfigured.keeps (configured : board.IsConfigured config) (request : Request) :
    (link.answer board request).2.IsConfigured config := by
  have same : ∀ handler header parameters,
      (∃ service, handler = Service.power service ∧ service.Configured config) →
        ∃ service, (Handler.respond handler header parameters).next = .power service ∧
          service.Configured config := by
    rintro _ header parameters ⟨service, rfl, configured⟩
    exact ⟨_, rfl, configured.respond header parameters⟩
  obtain ⟨service, serves, configured⟩ := configured
  obtain ⟨_, handled, next, rfl, kept⟩ :=
    answer_keeps same ⟨_, serves, service, rfl, configured⟩ request
  exact ⟨next, handled, kept⟩

/-- A quiet board stays quiet until somebody asks for notifications. -/
theorem IsQuiet.keeps (quiet : board.IsQuiet config) {request : Request}
    (spares : SparesNotifications request) : (link.answer board request).2.IsQuiet config := by
  obtain ⟨⟨service, serves, runs⟩, silent⟩ := quiet
  cases request with
  | await late =>
      cases late with
      | notification =>
          have nothing : board.pending.queue .notification = [] := silent
          rw [Link.answer, await_of_none nothing]
          exact ⟨⟨service, serves, runs⟩, silent⟩
      | delayedResponse =>
          have same : (link.answer board (.await .delayedResponse)).2.handlers = board.handlers ∧
              (link.answer board (.await .delayedResponse)).2.pending.notifications =
                board.pending.notifications := by
            simp only [Link.answer, Link.await, link, take, Pending.pop?]
            cases board.pending.queue .delayedResponse <;> exact ⟨rfl, rfl⟩
          refine ⟨⟨service, ?_, runs⟩, same.2.trans silent⟩
          rw [ServesPower, same.1]
          exact serves
  | command header parameters =>
      obtain ⟨protocol, message⟩ := spares header parameters rfl
      by_cases long : maxPayloadWords < parameters.length
      · rw [Link.answer, send_of_long header long]
        exact ⟨⟨service, serves, runs⟩, silent⟩
      · obtain ⟨next, nothing⟩ := runs.respond message parameters
        rw [serves.answer protocol (Nat.not_lt.mp long)]
        refine ⟨⟨_, board.servesPower_withPower _, next⟩, ?_⟩
        have queue := board.pending.queue_pushAll
          (Handler.respond service header parameters).posts .notification
        rw [nothing, List.append_nil] at queue
        exact queue.trans silent

theorem IsConfigured.answers_stateNotify (configured : board.IsConfigured config)
    (available : config.stateNotify = true) {header : Header}
    (protocol : header.protocol = Protocol.power)
    (message : header.message = Protocol.messageAttributesMessage) :
    ∃ response,
      (link.answer board (.command header [Power.stateNotify.toUInt32])).1 = .ok response ∧
        response.Succeeded := by
  obtain ⟨service, serves, configured⟩ := configured
  have there : service.implements Power.stateNotify.toUInt32 = true :=
    configured.stateNotify.trans available
  have carriesOut : (Power.Service.perform header [Power.stateNotify.toUInt32]).CarriesOut service
      { returns := [0], next := service } := by
    rw [Handling.CarriesOut, Power.Service.perform, message, Work.handle_state]
    exact congrArg (Work.handle _) (if_pos there)
  rw [serves.answer protocol (by simp [maxPayloadWords]),
    Power.Service.respond_of_carriesOut carriesOut]
  exact ⟨_, rfl, rfl⟩

end Switchboard

namespace Power

open Switchboard

/-! ### The case that watches a domain -/

/-- The case that watches a domain is failed because the platform refuses. -/
structure FailsRefusal (exchanges : List Exchange) (report : CaseReport) : Prop where
  refused : ∃ header,
    header.protocol = Protocol.power ∧ header.message = stateNotify ∧
      exchanges = [(.command header [watchedDomain, 1], .ok (.answering header .notSupported []))]
  checks : report.checks =
    [{ name := "status"
       outcome := .failed
       detail := "expected SUCCESS (0), got NOT_SUPPORTED (-1)" }]
  verdict : report.verdict = .nonConformant

section Case

variable {config : Config} {board : Switchboard PlatformAudit.Service}
  (quiet : board.IsQuiet config) (available : config.stateNotify = true) {domain : DomainConfig}
  (first : config.domains[watchedDomain.toNat]? = some domain)

include quiet available first

/-- A change of a domain that tells about its changes is told. -/
theorem runCase_watches (able : domain.notify = true) (carried : PlanState) :
    Carries link.answer (PlanRun.runCase plan notifyCases[0]) carried board
      fun _ report _ _ => report.verdict = .conformant := by
  obtain ⟨⟨service, serves, runs⟩, silent⟩ := quiet
  obtain ⟨current, found, same, -⟩ := runs.domain_found first
  have free : PlanRun.obstacle? notifyCases[0] carried.context = none := rfl
  have script : notifyCases[0].hooks.execute = watchChange := rfl
  rw [PlanRun.carries_runCase plan free, CaseRun.perform?, script, carries_bind]
  have clean : (PlanRun.startOf plan notifyCases[0] carried).IsClean :=
    fun check none => absurd none List.not_mem_nil
  apply (watchChange_carries serves rfl (runs.stateNotify.trans available) found
    (same ▸ able) silent clean rfl).mono
  rintro _ _ finish _ ⟨rfl, clean, -, -, made⟩
  exact PlanRun.reportOf_verdict clean made

/-- A domain that does not tell about its changes refuses, and the case fails. -/
theorem runCase_failsRefusal (unable : domain.notify = false) (carried : PlanState) :
    Carries link.answer (PlanRun.runCase plan notifyCases[0]) carried board
      fun exchanges report _ _ => FailsRefusal exchanges report := by
  obtain ⟨⟨service, serves, runs⟩, -⟩ := quiet
  obtain ⟨current, found, same, -⟩ := runs.domain_found first
  have refused : (Service.perform (CaseRun.nextHeader notifyCases[0] stateNotify carried.token)
      [watchedDomain, 1]).Refuses service .notSupported := by
    rw [Handling.Refuses,
      Service.perform_stateNotify _ rfl (runs.stateNotify.trans available)]
    exact Service.subscribe_refused [1] found (same ▸ unable)
  have free : PlanRun.obstacle? notifyCases[0] carried.context = none := rfl
  have script : notifyCases[0].hooks.execute = watchChange := rfl
  have answer := board_refused serves rfl (by simp [maxPayloadWords]) refused
  rw [PlanRun.carries_runCase plan free, CaseRun.perform?, script, carries_bind, watchChange,
    CaseRun.carries_playScript_checked]
  apply (CaseRun.carries_sendChecked_answered answer (.inl rfl) _).mpr
  have failed : (ExpectedStatus.exact .success).toCheck "status" Status.notSupported.code =
      { name := "status"
        outcome := .failed
        detail := "expected SUCCESS (0), got NOT_SUPPORTED (-1)" } := by decide
  let refusal : Response :=
    .answering (CaseRun.nextHeader notifyCases[0] stateNotify carried.token) .notSupported []
  let finish := CaseRun.checked notifyCases[0] none (PlanRun.startOf plan notifyCases[0] carried)
    refusal
  have checks : finish.checks = [_] := congrArg ([·]) failed
  have some : ∃ check ∈ finish.checks, check.outcome = .failed := by simp [checks]
  exact ⟨⟨_, rfl, rfl, rfl⟩, checks, PlanRun.reportOf_nonConformant some⟩

end Case

/-! ### Its turn in the run of the plan -/

def Config.declared (config : Config) : Option Fixture :=
  some (.power (.ofConfig config))

/-- What is exchanged in a run of the plan with a board that is declared as it is configured. -/
abbrev exchangesOfRun (config : Config) (board : Switchboard PlatformAudit.Service)
    (token : UInt16) :
    List Exchange :=
  (plan.runFrom config.declared token).transcript link.answer board

section Run

variable {config : Config} {board : Switchboard PlatformAudit.Service} (token : UInt16)

/-- Whenever the plan asks for the command, the answer opens the gate: the command is there, and was
declared to be. -/
theorem notifyGate_opened (configured : board.IsConfigured config)
    (available : config.stateNotify = true) {header : Header} {answer : Answer}
    (asked : (.command header [stateNotify.toUInt32], answer) ∈ exchangesOfRun config board token)
    (protocol : header.protocol = Protocol.power)
    (message : header.message = Protocol.messageAttributesMessage) :
    notifyGate.Opens (plan.context config.declared) answer := by
  have keeps (board : Switchboard PlatformAudit.Service) (request : Request)
      (configured : board.IsConfigured config) :
      (link.answer board request).2.IsConfigured config := configured.keeps request
  obtain ⟨before, configured, given⟩ := exists_of_mem_transcript keeps configured asked
  obtain ⟨response, answers, succeeded⟩ :=
    configured.answers_stateNotify available protocol message
  refine (notifyGate_opens_iff _ _).mpr ⟨response, given.symm.trans answers, succeeded, ?_⟩
  rintro _ ⟨⟩ -
  simp only [Expectations.ofConfig, available, if_true]
  decide

/-- Before the command is sent the board stays quiet, because the plan sends commands of its
protocol only. -/
theorem quiet_ahead (quiet : board.IsQuiet config) {exchanges : List Exchange}
    (inRun : exchanges ⊆ exchangesOfRun config board token)
    (withheld : ∀ exchange ∈ exchanges, ¬notifyGate.Exercises exchange.1) :
    (Responder.after link.answer board exchanges).IsQuiet config := by
  have ofProtocol : ∀ case ∈ plan.cases, case.protocol = plan.protocol := by decide
  have keeps (board : Switchboard PlatformAudit.Service) (request : Request)
      (quiet : board.IsQuiet config) (spares : SparesNotifications request) :
      (link.answer board request).2.IsQuiet config := quiet.keeps spares
  apply Responder.after_keeps keeps quiet
  rintro ⟨_, answer⟩ member header parameters rfl
  constructor
  · exact Plan.protocol_of_mem_transcript ofProtocol (inRun member)
  · exact fun message => withheld _ member ⟨header, parameters, rfl, message⟩

/-- The suite that watches a domain runs, and begins on a quiet board. -/
theorem notifySuite_runs (available : config.stateNotify = true) (quiet : board.IsQuiet config) :
    ∃ before watching invalid chapter,
      (plan.chronicle link.answer config.declared token board)[notifySuite]? = some chapter ∧
        chapter.episodes = [watching, invalid] ∧ watching.case = notifyCases[0] ∧
        plan.turns link.answer config.declared token board = before ++ watching :: [invalid] ∧
        (Responder.after link.answer board (before.flatMap Episode.exchanges)).IsQuiet config := by
  obtain ⟨ahead, chapter, answer, chapters, length, governs⟩ :
      ∃ (ahead : List Chapter) (chapter : Chapter) (answer : Answer),
        plan.chronicle link.answer config.declared token board = ahead ++ [chapter] ∧
          ahead.length = notifySuite ∧
          notifyGate.Governs (plan.context config.declared) answer notifyGating.gated
            (ahead.flatMap Chapter.exchanges) chapter.exchanges chapter.report :=
    notifyGating.chronicle_governed link.answer config.declared token board
  have told := Plan.isToldBy_chronicle link.answer plan config.declared token board
  have inRun : ahead.flatMap Chapter.exchanges ⊆ exchangesOfRun config board token := by
    rw [exchangesOfRun, told.exchanges, chapters, List.flatMap_append]
    exact List.subset_append_left _ _
  have opens : notifyGate.Opens (plan.context config.declared) answer := by
    obtain ⟨service, serves, runs⟩ := quiet.serves
    obtain ⟨earlier, header, later, asked, protocol, message, -⟩ := governs.asked
    refine notifyGate_opened token ⟨service, serves, runs.toConfigured⟩ available (inRun ?_)
      protocol message
    rw [asked]
    exact List.mem_append_right _ (List.mem_cons_self ..)
  have runs : chapter.runs = true := by
    have ran := (governs.opened opens).1
    rwa [Chapter.skipped_report, Bool.not_eq_false'] at ran
  -- So its cases have their turns behind those of the suites ahead of it.
  have place : (plan.chronicle link.answer config.declared token board)[notifySuite]? =
      some chapter := by
    rw [chapters, ← length, List.getElem?_concat_length]
  have gated : plan.suites[notifySuite]? = some notifyGating.gated := rfl
  obtain ⟨there, found, ofSuite⟩ := told.exists_chapter gated
  obtain rfl : chapter = there := Option.some.inj (place.symm.trans found)
  obtain ⟨watching, invalid, episodes, isWatching, -⟩ :=
    told.episodes_pair (List.mem_of_getElem? place) runs ofSuite rfl
  have turns : plan.turns link.answer config.declared token board =
      ahead.flatMap (·.episodes) ++ watching :: [invalid] := by
    rw [Plan.turns, chapters, List.flatMap_append, List.flatMap_singleton, episodes]
  refine ⟨_, watching, invalid, chapter, place, episodes, isWatching, turns, ?_⟩
  have exchanges : (ahead.flatMap (·.episodes)).flatMap Episode.exchanges =
      ahead.flatMap Chapter.exchanges := List.flatMap_assoc
  rw [exchanges]
  exact quiet_ahead token quiet inRun governs.withheld

end Run

/-- A configured platform that implements notifications passes the case that watches its first
domain if that domain tells about its changes.  If it does not, the platform refuses, as it was
declared to do, and the case is failed for it. -/
theorem watching_follows_support (config : Config) (available : config.stateNotify = true)
    {domain : DomainConfig} (first : config.domains.head? = some domain)
    (board : Switchboard PlatformAudit.Service) (serves : board.ServesPower (.start config))
    (idle : board.pending.notifications = []) (token : UInt16) :
    ∃ chapters,
      plan.IsToldBy link.answer (some (.power (.ofConfig config))) token board chapters ∧
      ∃ chapter watching invalid,
        chapters[notifySuite]? = some chapter ∧ chapter.episodes = [watching, invalid] ∧
          watching.case.id = "power.state_notify" ∧
          (domain.notify = true → watching.report.verdict = .conformant) ∧
          (domain.notify = false → FailsRefusal watching.exchanges watching.report) := by
  have quiet : board.IsQuiet config := ⟨⟨_, serves, Service.start_runs config⟩, idle⟩
  have found : config.domains[watchedDomain.toNat]? = some domain := by
    rw [← first, List.head?_eq_getElem?]
    rfl
  obtain ⟨before, watching, invalid, chapter, place, episodes, isWatching, turns, quietThen⟩ :=
    notifySuite_runs token available quiet
  refine ⟨_, Plan.isToldBy_chronicle link.answer plan config.declared token board, chapter, watching,
    invalid, place, episodes, by rw [isWatching]; rfl, fun able => ?_, fun unable => ?_⟩
  · have conforms := runCase_watches quietThen available found able watching.carried
    rw [← isWatching] at conforms
    exact Plan.turn_leaves link.answer config.declared token board turns conforms
  · have fails := runCase_failsRefusal quietThen available found unable watching.carried
    rw [← isWatching] at fails
    exact Plan.turn_leaves link.answer config.declared token board turns fails

/-- A platform whose only domain tells nothing. -/
def unwatchable : Config where
  domains := [{ name := "cpu0", notify := false }]
  stateNotify := true

/-- It refuses as it is declared to, and is found at fault. -/
theorem watching_follows_support_unwatchable :
    ∃ chapters,
      plan.IsToldBy link.answer (some (.power (.ofConfig unwatchable))) 0
        (runningPlatform {} (some (.start unwatchable)) {}) chapters ∧
      ∃ chapter watching invalid,
        chapters[3]? = some chapter ∧ chapter.episodes = [watching, invalid] ∧
          watching.case.id = "power.state_notify" ∧ watching.report.verdict = .nonConformant := by
  obtain ⟨chapters, told, chapter, watching, invalid, place, episodes, id, -, fails⟩ :=
    watching_follows_support unwatchable rfl rfl
      (runningPlatform {} (some (.start unwatchable)) {})
      (RunningPlatform.handler_power {} (.start unwatchable) {}) rfl 0
  exact ⟨chapters, told, chapter, watching, invalid, place, episodes, id, (fails rfl).verdict⟩

end Power

end PlatformAudit
