import PlatformAudit.Proofs.Platform.Queues
import PlatformAudit.Proofs.Platform.ReplySizes
import PlatformAudit.Proofs.Protocol.PowerService

/-!
# Power commands and a map of the domains

What commands do to a platform can be told from its configuration and from a map that gives each
domain its state and whether somebody waits for its changes.  Two kinds of commands move the map:
setting a state, and asking for notifications.  A command that is refused moves nothing, and no
other command does.
-/

namespace PlatformAudit.Power

/-- What changes of a domain while a platform runs. -/
structure DomainState where
  state : UInt32
  subscribed : Bool
deriving DecidableEq, Repr

/-- The states of the domains by number; nothing for numbers that are no domains. -/
abbrev DomainMap : Type :=
  Nat → Option DomainState

/-- The map after a change of one domain, if there is such a domain. -/
def DomainMap.change (map : DomainMap) (number : UInt32) (change : DomainState → DomainState) :
    DomainMap :=
  fun position =>
    if position = number.toNat then (map position).map change else map position

def Domain.current (domain : Domain) : DomainState where
  state := domain.state
  subscribed := domain.subscribed

def Service.domainMap (service : Service) : DomainMap :=
  fun position => service.domains[position]?.map Domain.current

def Service.after (service : Service) (commands : List (Header × List UInt32)) : Service :=
  commands.foldl (fun service (header, parameters) =>
    (Handler.respond service header parameters).next) service

namespace Config

variable (config : Config)

def domainMap : DomainMap :=
  fun position =>
    config.domains[position]?.map fun domain => { state := domain.initialState, subscribed := false }

/-- What a command that sets a state has to ask for: no unknown flags, a state that there is, and a
domain that there is and that can be set later if that is wanted. -/
def AllowsSet (flags number state : UInt32) : Prop :=
  (flags = 0 ∨ flags = 1) ∧ (state = 0 ∨ state = 0x40000000) ∧
    ∃ domain ∈ config.domains[number.toNat]?, flags = 1 → domain.deferred = true

/-- What a command has to ask for that wants notifications, or wants them no more. -/
def AllowsSubscription (number : UInt32) : Prop :=
  config.stateNotify = true ∧ ∃ domain ∈ config.domains[number.toNat]?, domain.notify = true

instance (flags number state : UInt32) : Decidable (config.AllowsSet flags number state) :=
  inferInstanceAs (Decidable (_ ∧ _ ∧ _))

instance (number : UInt32) : Decidable (config.AllowsSubscription number) :=
  inferInstanceAs (Decidable (_ ∧ _))

/-- How a command moves the map. -/
def move (map : DomainMap) (header : Header) (parameters : List UInt32) : DomainMap :=
  if header.message = stateSet then
    match parameters with
    | flags :: number :: state :: _ =>
        if config.AllowsSet flags number state then
          map.change number fun domain => { domain with state }
        else map
    | _ => map
  else if header.message = Power.stateNotify then
    match parameters with
    | number :: wanted :: _ =>
        if config.AllowsSubscription number then
          map.change number fun domain => { domain with subscribed := wanted.toNat.testBit 0 }
        else map
    | _ => map
  else map

variable {config} {map : DomainMap} {header : Header} {parameters : List UInt32}

theorem move_of_set (message : header.message = stateSet) {flags number state : UInt32}
    {more : List UInt32} (allows : config.AllowsSet flags number state) :
    config.move map header (flags :: number :: state :: more) =
      map.change number fun domain => { domain with state } := by
  unfold move
  rw [if_pos message]
  exact if_pos allows

theorem move_of_notify (message : header.message = Power.stateNotify) {number wanted : UInt32}
    {more : List UInt32} (allows : config.AllowsSubscription number) :
    config.move map header (number :: wanted :: more) =
      map.change number fun domain => { domain with subscribed := wanted.toNat.testBit 0 } := by
  have notSet : ¬header.message = stateSet := by
    rw [message]
    decide
  unfold move
  rw [if_neg notSet, if_pos message]
  exact if_pos allows

theorem move_of_set_refused (message : header.message = stateSet)
    (refused : ¬∃ flags number state more, parameters = flags :: number :: state :: more ∧
      config.AllowsSet flags number state) :
    config.move map header parameters = map := by
  unfold move
  rw [if_pos message]
  split
  case h_1 flags number state more =>
    exact if_neg fun allows => refused ⟨flags, number, state, more, rfl, allows⟩
  case h_2 => rfl

theorem move_of_notify_refused (message : header.message = Power.stateNotify)
    (refused : ¬∃ number wanted more, parameters = number :: wanted :: more ∧
      config.AllowsSubscription number) :
    config.move map header parameters = map := by
  have notSet : ¬header.message = stateSet := by
    rw [message]
    decide
  unfold move
  rw [if_neg notSet, if_pos message]
  split
  case h_1 number wanted more =>
    exact if_neg fun allows => refused ⟨number, wanted, more, rfl, allows⟩
  case h_2 => rfl

theorem move_of_other (notSet : header.message ≠ stateSet)
    (notNotify : header.message ≠ Power.stateNotify) : config.move map header parameters = map := by
  unfold move
  rw [if_neg notSet, if_neg notNotify]

variable (config)

def mapAfter (commands : List (Header × List UInt32)) : DomainMap :=
  commands.foldl (fun map (header, parameters) => config.move map header parameters)
    config.domainMap

end Config

/-- What a service makes of a command follows from how it is configured and from the map of its
domains. -/
structure Follows (config : Config) (map : DomainMap) (service : Service) (command : Header)
    (parameters : List UInt32) (reply : Reply Service) : Prop where
  header : reply.response.header = command
  move : reply.next.domainMap = config.move map command parameters
  /-- A refused command changes nothing and queues nothing. -/
  refused : ¬reply.response.Succeeded → reply.next = service ∧ reply.posts = []
  setSucceeds : command.message = stateSet →
    (reply.response.Succeeded ↔
      ∃ flags number state more, parameters = flags :: number :: state :: more ∧
        config.AllowsSet flags number state)
  /-- A change queues its completion if it was asked for, and a notification if somebody waits for
  it. -/
  setQueues {flags number state : UInt32} {more : List UInt32} (pending : Pending) :
    command.message = stateSet → parameters = flags :: number :: state :: more →
      config.AllowsSet flags number state →
        (pending.pushAll reply.posts).delayed =
            pending.delayed ++
              (if flags = 1 then
                [ { header := { command with kind := .delayedResponse }
                    status := 0
                    returns := [number, state] } ]
              else []) ∧
          (pending.pushAll reply.posts).notifications =
            pending.notifications ++
              (if ∃ domain ∈ map number.toNat, domain.subscribed = true then
                [ { header := { protocol := 0x11, kind := .notification, message := 0x0 }
                    status := 0
                    returns := [1, number, state] } ]
              else [])
  notifySucceeds : command.message = Power.stateNotify →
    (reply.response.Succeeded ↔
      ∃ number wanted more, parameters = number :: wanted :: more ∧
        config.AllowsSubscription number)
  getSucceeds : command.message = stateGet →
    (reply.response.Succeeded ↔
      ∃ number more domain, parameters = number :: more ∧ map number.toNat = some domain)
  getReturns {number : UInt32} {more : List UInt32} {domain : DomainState} :
    command.message = stateGet → parameters = number :: more → map number.toNat = some domain →
      reply.response.returns = [domain.state]
  /-- Only commands that set a state queue anything. -/
  quiet : command.message ≠ stateSet → reply.posts = []
  /-- Other commands change nothing. -/
  unmoved : command.message ≠ stateSet → command.message ≠ Power.stateNotify → reply.next = service

namespace Service

variable {service : Service} {config : Config} {number : UInt32} {domain : Domain}
  {header : Header} {parameters : List UInt32}

theorem start_domainMap (config : Config) : (start config).domainMap = config.domainMap := by
  funext position
  rw [domainMap, start, List.getElem?_map, Option.map_map]
  rfl

/-- A change of a domain is a change of the map. -/
theorem domainMap_withDomain (found : service.domains[number.toNat]? = some domain)
    {after : Domain} {change : DomainState → DomainState}
    (same : after.current = change domain.current) :
    (service.withDomain number after).domainMap = service.domainMap.change number change := by
  funext position
  rw [DomainMap.change]
  by_cases here : position = number.toNat
  · subst here
    rw [if_pos rfl, domainMap, domainMap, domains_withDomain after found, found, Option.map_some,
      Option.map_some, Option.map_some, same]
  · rw [if_neg here, domainMap, domainMap, withDomain, List.getElem?_set_ne (Ne.symm here)]

theorem Configured.domain? (configured : service.Configured config) (position : Nat) :
    config.domains[position]? = service.domains[position]?.map (·.config) := by
  rw [← configured.configs, List.getElem?_map]

/-! ### Replies -/

theorem respond_of_carriesOut {outcome : Outcome Service}
    (carriesOut : (perform header parameters).CarriesOut service outcome) :
    Handler.respond service header parameters =
      { response := { header, status := Status.success.code, returns := outcome.returns }
        posts := outcome.posts
        next := outcome.next } :=
  carriesOut.reply header

theorem respond_succeeded_iff :
    (Handler.respond service header parameters).response.Succeeded ↔
      ∃ outcome, (perform header parameters).CarriesOut service outcome := by
  constructor
  · intro succeeded
    rcases Handling.carriesOut_or_refuses (perform_ends service header parameters) with
      ⟨outcome, carriesOut, -⟩ | ⟨status, refuses, honest⟩
    · exact ⟨outcome, carriesOut⟩
    · simp only [Handler.respond, refuses.reply] at succeeded
      cases status with
      | success => exact absurd rfl honest
      | _ => cases succeeded
  · rintro ⟨outcome, carriesOut⟩
    rw [respond_of_carriesOut carriesOut]
    rfl

theorem respond_header (service : Service) (header : Header) (parameters : List UInt32) :
    (Handler.respond service header parameters).response.header = header := by
  simp only [Handler.respond, Reply.ofHandling, Response.ofResult]
  split <;> rfl

/-- A refused command leaves the service as it was and posts nothing, because a handler that refuses
a command has not begun to change anything. -/
theorem respond_refused
    (refused : ¬(Handler.respond service header parameters).response.Succeeded) :
    (Handler.respond service header parameters).next = service ∧
      (Handler.respond service header parameters).posts = [] := by
  rcases Handling.carriesOut_or_refuses (perform_ends service header parameters) with
    ⟨outcome, carriesOut, -⟩ | ⟨status, refuses, -⟩
  · exact absurd (respond_succeeded_iff.mpr ⟨outcome, carriesOut⟩) refused
  · simp only [Handler.respond, refuses.reply, and_self]

/-! ### Commands that set a state -/

theorem Configured.allowsSet_iff (configured : service.Configured config) {flags state : UInt32} :
    config.AllowsSet flags number state ↔
      (flags = 0 ∨ flags = 1) ∧ (state = stateOn ∨ state = stateOff) ∧
        ∃ domain, service.domains[number.toNat]? = some domain ∧
          (flags = 1 → domain.config.deferred = true) := by
  rw [Config.AllowsSet, configured.domain?]
  cases service.domains[number.toNat]? <;> simp [stateOn, stateOff]

theorem Configured.set_succeeded_iff (configured : service.Configured config)
    (message : header.message = stateSet) :
    (Handler.respond service header parameters).response.Succeeded ↔
      ∃ flags number state more, parameters = flags :: number :: state :: more ∧
        config.AllowsSet flags number state := by
  simp only [respond_succeeded_iff, perform_stateSet header message, setState_carriesOut_iff,
    configured.allowsSet_iff]
  constructor
  · rintro ⟨_, flags, number, state, more, domain, shape, allowed, known, found, able, -⟩
    exact ⟨flags, number, state, more, shape, allowed, known, domain, found, able⟩
  · rintro ⟨flags, number, state, more, shape, allowed, known, domain, found, able⟩
    exact ⟨_, flags, number, state, more, domain, shape, allowed, known, found, able, rfl⟩

/-- The reply to a command that is allowed to set a state. -/
theorem Configured.respond_set (configured : service.Configured config)
    (message : header.message = stateSet) {flags state : UInt32} {more : List UInt32}
    (allows : config.AllowsSet flags number state) :
    ∃ domain, service.domains[number.toNat]? = some domain ∧
      Handler.respond service header (flags :: number :: state :: more) =
        { response := { header, status := Status.success.code, returns := [] }
          posts := completion header flags number state ++ announcement domain number state
          next := service.withDomain number { domain with state } } := by
  obtain ⟨allowed, known, domain, found, able⟩ := configured.allowsSet_iff.mp allows
  have carriesOut := setState_carriesOut header more allowed known found able
  rw [← perform_stateSet header message] at carriesOut
  exact ⟨domain, found, respond_of_carriesOut carriesOut⟩

/-! ### Commands that ask for notifications -/

theorem Configured.allowsSubscription_iff (configured : service.Configured config) :
    config.AllowsSubscription number ↔
      service.stateNotify = true ∧
        ∃ domain, service.domains[number.toNat]? = some domain ∧ domain.config.notify = true := by
  rw [Config.AllowsSubscription, configured.domain?, configured.stateNotify]
  cases service.domains[number.toNat]? <;> simp

theorem Configured.notify_succeeded_iff (configured : service.Configured config)
    (message : header.message = Power.stateNotify) :
    (Handler.respond service header parameters).response.Succeeded ↔
      ∃ number wanted more, parameters = number :: wanted :: more ∧
        config.AllowsSubscription number := by
  by_cases available : service.stateNotify = true
  · have same (outcome : Outcome Service) :
        (perform header parameters).CarriesOut service outcome ↔
          (subscribe parameters).CarriesOut service outcome := by
      rw [Handling.CarriesOut, Handling.CarriesOut, perform_stateNotify header message available]
    simp only [respond_succeeded_iff, same, subscribe_carriesOut_iff,
      configured.allowsSubscription_iff]
    constructor
    · rintro ⟨_, number, wanted, more, domain, shape, found, able, -⟩
      exact ⟨number, wanted, more, shape, available, domain, found, able⟩
    · rintro ⟨number, wanted, more, shape, -, domain, found, able⟩
      exact ⟨_, number, wanted, more, domain, shape, found, able, rfl⟩
  · have refuses := perform_stateNotify_unavailable header message available parameters
    simp only [respond_succeeded_iff, configured.allowsSubscription_iff]
    constructor
    · rintro ⟨outcome, carriesOut⟩
      exact absurd refuses carriesOut.not_refuses
    · rintro ⟨_, _, _, _, there, -⟩
      exact absurd there available

/-- The reply to a command that is allowed to ask for notifications. -/
theorem Configured.respond_notify (configured : service.Configured config)
    (message : header.message = Power.stateNotify) {wanted : UInt32} {more : List UInt32}
    (allows : config.AllowsSubscription number) :
    ∃ domain, service.domains[number.toNat]? = some domain ∧
      Handler.respond service header (number :: wanted :: more) =
        { response := { header, status := Status.success.code, returns := [] }
          next := service.withDomain number { domain with subscribed := wanted &&& 1 ≠ 0 } } := by
  obtain ⟨available, domain, found, able⟩ := configured.allowsSubscription_iff.mp allows
  have carriesOut := subscribe_carriesOut wanted more found able
  rw [Handling.CarriesOut, ← perform_stateNotify header message available] at carriesOut
  exact ⟨domain, found, respond_of_carriesOut carriesOut⟩

/-! ### Other commands -/

/-- What is neither a change nor a request for notifications changes nothing. -/
theorem respond_other (notSet : header.message ≠ stateSet)
    (notNotify : header.message ≠ Power.stateNotify) :
    (Handler.respond service header parameters).next = service ∧
      (Handler.respond service header parameters).posts = [] := by
  rcases Handling.carriesOut_or_refuses (perform_ends service header parameters) with
    ⟨outcome, carriesOut, -, unchanged⟩ | ⟨status, refuses, -⟩
  · obtain ⟨same, nothing⟩ := Work.mk.inj (unchanged notSet notNotify)
    rw [respond_of_carriesOut carriesOut]
    exact ⟨same, nothing⟩
  · simp only [Handler.respond, refuses.reply, and_self]

theorem respond_get (message : header.message = stateGet) {more : List UInt32}
    (found : service.domains[number.toNat]? = some domain) :
    (Handler.respond service header (number :: more)).response =
      { header, status := Status.success.code, returns := [domain.state] } := by
  rw [respond_of_carriesOut (perform_stateGet header message found more)]

theorem get_succeeded_iff (message : header.message = stateGet) :
    (Handler.respond service header parameters).response.Succeeded ↔
      ∃ number more domain, parameters = number :: more ∧
        service.domainMap number.toNat = some domain := by
  constructor
  · rw [respond_succeeded_iff]
    rintro ⟨outcome, carriesOut⟩
    cases parameters with
    | nil =>
        rw [Handling.CarriesOut, perform, message] at carriesOut
        cases carriesOut
    | cons number more =>
        cases found : service.domains[number.toNat]? with
        | none =>
            have missing := List.getElem?_eq_none_iff.mp found
            exact absurd (perform_stateGet_unknown header message missing more)
              carriesOut.not_refuses
        | some domain =>
            exact ⟨number, more, domain.current, rfl, by rw [domainMap, found, Option.map_some]⟩
  · rintro ⟨number, more, current, rfl, there⟩
    obtain ⟨domain, found, -⟩ := Option.map_eq_some_iff.mp there
    rw [respond_get message found]
    rfl

/-! ### Runs -/

theorem lowestBit_eq (wanted : UInt32) : decide (wanted &&& 1 ≠ 0) = wanted.toNat.testBit 0 := by
  have lowest : (wanted &&& 1).toNat = wanted.toNat % 2 := by
    rw [UInt32.toNat_and]
    exact Nat.and_one_is_mod _
  rw [Nat.testBit_zero, decide_eq_decide, ne_eq, ← UInt32.toNat_inj, lowest]
  exact Nat.mod_two_ne_zero

/-- A command moves the service as it moves the map. -/
theorem Configured.domainMap_respond (configured : service.Configured config) (header : Header)
    (parameters : List UInt32) :
    (Handler.respond service header parameters).next.domainMap =
      config.move service.domainMap header parameters := by
  by_cases set : header.message = stateSet
  case pos =>
    by_cases allowed : ∃ flags number state more, parameters = flags :: number :: state :: more ∧
        config.AllowsSet flags number state
    · obtain ⟨flags, number, state, more, rfl, allows⟩ := allowed
      obtain ⟨domain, found, replied⟩ := configured.respond_set set allows
      rw [replied, Config.move_of_set set allows]
      exact domainMap_withDomain found rfl
    · have refused := respond_refused (mt (configured.set_succeeded_iff set).mp allowed)
      rw [refused.1, Config.move_of_set_refused set allowed]
  by_cases notify : header.message = Power.stateNotify
  case pos =>
    by_cases allowed : ∃ number wanted more, parameters = number :: wanted :: more ∧
        config.AllowsSubscription number
    · obtain ⟨number, wanted, more, rfl, allows⟩ := allowed
      obtain ⟨domain, found, replied⟩ := configured.respond_notify notify allows
      rw [replied, Config.move_of_notify notify allows, ← lowestBit_eq]
      exact domainMap_withDomain found rfl
    · have refused := respond_refused (mt (configured.notify_succeeded_iff notify).mp allowed)
      rw [refused.1, Config.move_of_notify_refused notify allowed]
  rw [(respond_other set notify).1, Config.move_of_other set notify]

theorem Configured.respond (configured : service.Configured config) (header : Header)
    (parameters : List UInt32) :
    (Handler.respond service header parameters).next.Configured config := by
  by_cases succeeded : (Handler.respond service header parameters).response.Succeeded
  case neg =>
    rw [(respond_refused succeeded).1]
    exact configured
  by_cases set : header.message = stateSet
  case pos =>
    obtain ⟨flags, number, state, more, rfl, allows⟩ :=
      (configured.set_succeeded_iff set).mp succeeded
    obtain ⟨domain, found, replied⟩ := configured.respond_set set allows
    rw [replied]
    exact configured.withDomain found rfl
  by_cases notify : header.message = Power.stateNotify
  case pos =>
    obtain ⟨number, wanted, more, rfl, allows⟩ :=
      (configured.notify_succeeded_iff notify).mp succeeded
    obtain ⟨domain, found, replied⟩ := configured.respond_notify notify allows
    rw [replied]
    exact configured.withDomain found rfl
  rw [(respond_other set notify).1]
  exact configured

/-- As long as nobody asks for notifications, nobody waits for any and none is posted. -/
theorem Runs.respond (runs : service.Runs config) {header : Header}
    (notNotify : header.message ≠ Power.stateNotify) (parameters : List UInt32) :
    (Handler.respond service header parameters).next.Runs config ∧
      Late.notification.posted (Handler.respond service header parameters).posts = [] := by
  by_cases succeeded : (Handler.respond service header parameters).response.Succeeded
  case neg =>
    obtain ⟨same, nothing⟩ := respond_refused succeeded
    rw [same, nothing]
    exact ⟨runs, rfl⟩
  by_cases set : header.message = stateSet
  case neg =>
    have unchanged : (Handler.respond service header parameters).next = service ∧
        (Handler.respond service header parameters).posts = [] := respond_other set notNotify
    rw [unchanged.1, unchanged.2]
    exact ⟨runs, rfl⟩
  obtain ⟨flags, number, state, more, rfl, allows⟩ :=
    (runs.set_succeeded_iff set).mp succeeded
  obtain ⟨domain, found, replied⟩ := runs.respond_set set allows
  have unwatched := runs.unwatched domain (List.mem_of_getElem? found)
  rw [replied, announcement_of_unwatched unwatched, List.append_nil]
  refine ⟨runs.withDomain found rfl unwatched, ?_⟩
  unfold completion
  split <;> rfl

/-- The completion and the notification of a change go into queues of their own. -/
theorem queues_after_change (pending : Pending) (header : Header) (flags number state : UInt32)
    (domain : Domain) :
    let posts := completion header flags number state ++ announcement domain number state
    (pending.pushAll posts).delayed =
        pending.delayed ++
          (if flags = 1 then
            [ { header := { header with kind := .delayedResponse }
                status := 0
                returns := [number, state] } ]
          else []) ∧
      (pending.pushAll posts).notifications =
        pending.notifications ++
          (if domain.subscribed = true then
            [ { header := { protocol := 0x11, kind := .notification, message := 0x0 }
                status := 0
                returns := [1, number, state] } ]
          else []) := by
  intro posts
  have queued (late : Late) := pending.queue_pushAll posts late
  refine ⟨(queued .delayedResponse).trans ?_, (queued .notification).trans ?_⟩
  · refine congrArg (pending.delayed ++ ·) ?_
    rw [Late.posted_append]
    by_cases later : flags = 1 <;> by_cases watched : domain.subscribed = true <;>
      simp [completion, announcement, later, watched, Late.posted, Post.late, Post.response,
        Status.code]
  · refine congrArg (pending.notifications ++ ·) ?_
    rw [Late.posted_append]
    by_cases later : flags = 1 <;> by_cases watched : domain.subscribed = true <;>
      simp [completion, announcement, later, watched, Late.posted, Post.late, Post.response,
        Status.code, Protocol.power, stateChanged, callingAgent]

/-- A service answers as its configuration and the map of its domains tell. -/
theorem Configured.follows (configured : service.Configured config) (header : Header)
    (parameters : List UInt32) :
    Follows config service.domainMap service header parameters
      (Handler.respond service header parameters) where
  header := respond_header service header parameters
  move := configured.domainMap_respond header parameters
  refused := respond_refused
  setSucceeds := configured.set_succeeded_iff
  setQueues := by
    rintro flags number state more pending message rfl allows
    obtain ⟨domain, found, replied⟩ := configured.respond_set message allows
    have watched : (∃ current ∈ service.domainMap number.toNat, current.subscribed = true) ↔
        domain.subscribed = true := by
      simp [domainMap, found, Domain.current]
    rw [replied]
    simp only [watched]
    exact queues_after_change pending header flags number state domain
  notifySucceeds := configured.notify_succeeded_iff
  getSucceeds := get_succeeded_iff
  getReturns := by
    rintro number more current message rfl there
    obtain ⟨domain, found, rfl⟩ := Option.map_eq_some_iff.mp there
    rw [respond_get message found]
    rfl
  quiet notSet := by
    by_cases succeeded : (Handler.respond service header parameters).response.Succeeded
    case neg => exact (respond_refused succeeded).2
    by_cases notify : header.message = Power.stateNotify
    case neg => exact (respond_other notSet notify).2
    obtain ⟨number, wanted, more, rfl, allows⟩ :=
      (configured.notify_succeeded_iff notify).mp succeeded
    obtain ⟨domain, -, replied⟩ := configured.respond_notify notify allows
    rw [replied]
  unmoved notSet notNotify := (respond_other notSet notNotify).1

/-- Commands move a service as they move the map. -/
theorem Configured.after (configured : service.Configured config)
    (commands : List (Header × List UInt32)) :
    (service.after commands).Configured config ∧
      (service.after commands).domainMap =
        commands.foldl (fun map (header, parameters) => config.move map header parameters)
          service.domainMap := by
  induction commands generalizing service with
  | nil => exact ⟨configured, rfl⟩
  | cons command rest induction =>
      obtain ⟨header, parameters⟩ := command
      obtain ⟨kept, same⟩ := induction (configured.respond header parameters)
      refine ⟨kept, same.trans ?_⟩
      rw [configured.domainMap_respond, List.foldl_cons]

/-- However a platform is configured and whatever it is asked, it gives each domain the state that
the map gives it, and whatever it is asked next it answers as the map tells. -/
theorem commands_follow_map (config : Config) (commands : List (Header × List UInt32)) :
    let service := (start config).after commands
    let map := config.mapAfter commands
    service.domainMap = map ∧
      ∀ header parameters,
        Follows config map service header parameters
          (Handler.respond service header parameters) := by
  intro service map
  obtain ⟨configured, same⟩ := (start_configured config).after commands
  have here : service.domainMap = map := by
    rw [same, start_domainMap]
    rfl
  exact ⟨here, fun header parameters => here ▸ configured.follows header parameters⟩

/-- Two domains, of which the second one cannot be set later. -/
def twoDomains : Config where
  domains := [{ name := "cpu0" }, { name := "gpu", deferred := false }]
  stateNotify := true

/-- Whoever waits for changes of a domain is told about a change that is wanted later, which is
completed too.  A domain that cannot be set later stays as it is. -/
theorem commands_follow_map_watched :
    let set := Header.command Protocol.power stateSet
    let commands : List (Header × List UInt32) :=
      [ (.command Protocol.power Power.stateNotify, [0, 3])
      , (set, [1, 1, stateOff])
      , (set, [1, 0, stateOff]) ]
    let service := (start twoDomains).after commands
    let reply := Handler.respond service set [1, 0, stateOn]
    service.domainMap 0 = some { state := stateOff, subscribed := true } ∧
      service.domainMap 1 = some { state := stateOn, subscribed := false } ∧
      reply.response.Succeeded ∧
      (Pending.pushAll {} reply.posts).delayed =
        [{ header := { set with kind := .delayedResponse }, status := 0, returns := [0, stateOn] }] ∧
      (Pending.pushAll {} reply.posts).notifications =
        [ { header := { protocol := Protocol.power, kind := .notification, message := stateChanged }
            status := 0
            returns := [1, 0, stateOn] } ] := by
  intro set commands service reply
  obtain ⟨same, follows⟩ := commands_follow_map twoDomains commands
  have next := follows set [1, 0, stateOn]
  have allows : twoDomains.AllowsSet 1 0 stateOn := by decide
  have queues := next.setQueues {} rfl rfl allows
  refine ⟨?_, ?_, (next.setSucceeds rfl).mpr ⟨1, 0, stateOn, [], rfl, allows⟩, ?_, ?_⟩
  · exact (congrFun same 0).trans (by decide)
  · exact (congrFun same 1).trans (by decide)
  · exact queues.1
  · exact queues.2.trans (by decide)

end Service

end PlatformAudit.Power
