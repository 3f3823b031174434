import PlatformAudit.Proofs.Payload.Packing
import PlatformAudit.Proofs.Platform.Handling
import PlatformAudit.Proofs.Word.BitRange
import PlatformAudit.Protocol.Power.Service

/-!
# What power commands do to a platform

The power protocol runs as it was configured: a command changes the state of one domain, or whether
somebody waits for its changes, and nothing else.
-/

namespace PlatformAudit.Power

namespace Service

/-- The service runs as it was configured, in whatever states its domains are. -/
structure Configured (service : Service) (config : Config) : Prop where
  version : service.version = config.version
  stateNotify : service.stateNotify = config.stateNotify
  configs : service.domains.map (·.config) = config.domains

/-- The service runs as configured, and nobody waits for changes of any domain. -/
structure Runs (service : Service) (config : Config) : Prop
    extends service.Configured config where
  unwatched : ∀ domain ∈ service.domains, domain.subscribed = false

theorem start_configured (config : Config) : (start config).Configured config where
  version := rfl
  stateNotify := rfl
  configs := by simp [start, Function.comp_def]

theorem start_runs (config : Config) : (start config).Runs config where
  toConfigured := start_configured config
  unwatched := by simp [start]

variable {service : Service} {config : Config}

theorem Runs.length_eq (runs : service.Runs config) :
    service.domains.length = config.domains.length := by
  rw [← runs.configs, List.length_map]

theorem Runs.domain_found (runs : service.Runs config) {position : Nat} {configured : DomainConfig}
    (known : config.domains[position]? = some configured) :
    ∃ domain, service.domains[position]? = some domain ∧ domain.config = configured ∧
      domain.subscribed = false := by
  rw [← runs.configs, List.getElem?_map, Option.map_eq_some_iff] at known
  obtain ⟨domain, found, same⟩ := known
  exact ⟨domain, found, same, runs.unwatched domain (List.mem_of_getElem? found)⟩

theorem Configured.withDomain (configured : service.Configured config) {number : UInt32}
    {before after : Domain} (found : service.domains[number.toNat]? = some before)
    (same : after.config = before.config) :
    (service.withDomain number after).Configured config where
  version := configured.version
  stateNotify := configured.stateNotify
  configs := by
    obtain ⟨inside, equality⟩ := List.getElem?_eq_some_iff.mp found
    have kept : (service.domains.map (·.config))[number.toNat]? = some after.config := by
      rw [List.getElem?_map, found, Option.map_some, same]
    rw [Service.withDomain, List.map_set, ← configured.configs]
    exact List.ext_getElem? fun position => by
      by_cases here : number.toNat = position
      · subst here
        rw [List.getElem?_set_self (by rwa [List.length_map]), kept]
      · rw [List.getElem?_set_ne here]

theorem Runs.withDomain (runs : service.Runs config) {number : UInt32} {before after : Domain}
    (found : service.domains[number.toNat]? = some before) (same : after.config = before.config)
    (unwatched : after.subscribed = false) : (service.withDomain number after).Runs config where
  toConfigured := runs.toConfigured.withDomain found same
  unwatched domain member := by
    rcases List.mem_or_eq_of_mem_set member with old | rfl
    · exact runs.unwatched domain old
    · exact unwatched

theorem domains_withDomain {number : UInt32} {before : Domain} (after : Domain)
    (found : service.domains[number.toNat]? = some before) :
    (service.withDomain number after).domains[number.toNat]? = some after := by
  obtain ⟨inside, -⟩ := List.getElem?_eq_some_iff.mp found
  exact List.getElem?_set_self inside

theorem withDomain_withDomain (number : UInt32) (first second : Domain) :
    (service.withDomain number first).withDomain number second =
      service.withDomain number second := by
  simp [withDomain]

section Commands

variable {number state : UInt32} {domain : Domain}

theorem domain_eq_ok (found : service.domains[number.toNat]? = some domain) :
    service.domain number = .ok domain := by
  rw [Service.domain, found]

theorem domain_eq_error (missing : service.domains.length ≤ number.toNat) :
    service.domain number = .error .notFound := by
  rw [Service.domain, List.getElem?_eq_none missing]

/-- The completion of a change, if it was asked for. -/
def completion (header : Header) (flags number state : UInt32) : List Post :=
  if flags = 1 then [.delayed header Status.success.code [number, state]] else []

/-- The notification of a change, if somebody waits for it. -/
def announcement (domain : Domain) (number state : UInt32) : List Post :=
  if domain.subscribed then
    [.notification Protocol.power stateChanged [callingAgent, number, state]]
  else []

theorem announcement_of_unwatched (unwatched : domain.subscribed = false) :
    announcement domain number state = [] := by
  simp [announcement, unwatched]

/-- The one flag that a command may set. -/
theorem flags_allowed_iff (flags : UInt32) :
    flags &&& ~~~deferredFlag.mask = 0 ↔ flags = 0 ∨ flags = 1 := by
  have largest : deferredFlag.maxValue = 1 := by decide
  rw [BitRange.clear_beside_iff _ rfl, largest, UInt32.le_iff_toNat_le, ← UInt32.toNat_inj,
    ← UInt32.toNat_inj]
  exact Nat.le_one_iff_eq_zero_or_eq_one

theorem read_deferredFlag {flags : UInt32} (allowed : flags = 0 ∨ flags = 1) :
    deferredFlag.read flags ≠ 0 ↔ flags = 1 := by
  rcases allowed with rfl | rfl <;> decide

section SetState

variable (header : Header) {flags : UInt32} (more : List UInt32)

theorem handle_setState (allowed : flags = 0 ∨ flags = 1)
    (known : state = stateOn ∨ state = stateOff) (work : Work Service) :
    work.handle (setState header (flags :: number :: state :: more)) =
      match work.state.domain number with
      | .error status => (.error status, work)
      | .ok domain =>
          if flags = 1 ∧ ¬domain.config.deferred then (.error .notSupported, work)
          else
            (.ok [],
              { state := work.state.withDomain number { domain with state }
                posts :=
                  work.posts ++
                    (completion header flags number state ++ announcement domain number state) })
    := by
  have clear := (flags_allowed_iff flags).mpr allowed
  have there : ¬(state ≠ stateOn ∧ state ≠ stateOff) := fun ⟨notOn, notOff⟩ =>
    known.elim notOn notOff
  simp only [setState, parameter, List.getElem?_cons_zero, List.getElem?_cons_succ,
    Work.handle_lift_ok, Work.handle_state, clear, there, read_deferredFlag allowed, ne_eq,
    not_true_eq_false, if_false]
  cases work.state.domain number with
  | error status => rfl
  | ok domain =>
      simp only [Work.handle_lift_ok]
      by_cases unable : flags = 1 ∧ ¬domain.config.deferred
      · rw [if_pos unable, if_pos unable, Work.handle_throw]
      · rw [if_neg unable, if_neg unable]
        unfold completion announcement
        by_cases later : flags = 1 <;> by_cases watched : domain.subscribed = true <;>
          simp [later, watched, -bind_pure_comp]

theorem setState_flags (forbidden : ¬(flags = 0 ∨ flags = 1)) :
    (setState header (flags :: number :: state :: more)).Refuses service .invalidParameters := by
  simp only [Handling.Refuses, setState, parameter, List.getElem?_cons_zero,
    List.getElem?_cons_succ, Work.handle_lift_ok, ne_eq, flags_allowed_iff, forbidden,
    not_false_eq_true, if_true, Work.handle_throw]

theorem setState_strange (strange : ¬(state = stateOn ∨ state = stateOff)) :
    (setState header (flags :: number :: state :: more)).Refuses service .invalidParameters := by
  have missing : state ≠ stateOn ∧ state ≠ stateOff := not_or.mp strange
  simp only [Handling.Refuses, setState, parameter, List.getElem?_cons_zero,
    List.getElem?_cons_succ, Work.handle_lift_ok]
  rw [if_pos missing, ite_self, Work.handle_throw]

/-- A domain that there is changes its state, if it can do so when it is wanted. -/
theorem setState_carriesOut (allowed : flags = 0 ∨ flags = 1)
    (known : state = stateOn ∨ state = stateOff)
    (found : service.domains[number.toNat]? = some domain)
    (able : flags = 1 → domain.config.deferred = true) :
    (setState header (flags :: number :: state :: more)).CarriesOut service
      { posts := completion header flags number state ++ announcement domain number state
        next := service.withDomain number { domain with state } } := by
  have granted : ¬(flags = 1 ∧ ¬domain.config.deferred) := fun ⟨later, unable⟩ =>
    unable (able later)
  rw [Handling.CarriesOut, handle_setState header more allowed known]
  simp only [domain_eq_ok found, if_neg granted, List.nil_append]

theorem setState_unable (known : state = stateOn ∨ state = stateOff)
    (found : service.domains[number.toNat]? = some domain)
    (unable : domain.config.deferred = false) :
    (setState header (1 :: number :: state :: more)).Refuses service .notSupported := by
  rw [Handling.Refuses, handle_setState header more (.inr rfl) known]
  simp [domain_eq_ok found, unable]

theorem setState_missing (allowed : flags = 0 ∨ flags = 1)
    (known : state = stateOn ∨ state = stateOff)
    (missing : service.domains.length ≤ number.toNat) :
    (setState header (flags :: number :: state :: more)).Refuses service .notFound := by
  rw [Handling.Refuses, handle_setState header more allowed known]
  simp only [domain_eq_error missing]

/-- What a command needs in order to set a state, and what it then does. -/
theorem setState_carriesOut_iff (parameters : List UInt32) (outcome : Outcome Service) :
    (setState header parameters).CarriesOut service outcome ↔
      ∃ flags number state more domain, parameters = flags :: number :: state :: more ∧
        (flags = 0 ∨ flags = 1) ∧ (state = stateOn ∨ state = stateOff) ∧
        service.domains[number.toNat]? = some domain ∧
        (flags = 1 → domain.config.deferred = true) ∧
        outcome =
          { posts := completion header flags number state ++ announcement domain number state
            next := service.withDomain number { domain with state } } := by
  constructor
  · intro succeeded
    match parameters with
    | [] | [_] | [_, _] => cases succeeded
    | flags :: number :: state :: more =>
        by_cases allowed : flags = 0 ∨ flags = 1
        case neg => exact absurd (setState_flags header more allowed) succeeded.not_refuses
        by_cases known : state = stateOn ∨ state = stateOff
        case neg => exact absurd (setState_strange header more known) succeeded.not_refuses
        cases found : service.domains[number.toNat]? with
        | none =>
            have missing := List.getElem?_eq_none_iff.mp found
            exact absurd (setState_missing header more allowed known missing)
              succeeded.not_refuses
        | some domain =>
            have able : flags = 1 → domain.config.deferred = true := by
              rintro rfl
              refine eq_true_of_ne_false fun unable => ?_
              exact succeeded.not_refuses (setState_unable header more known found unable)
            have done := setState_carriesOut header more allowed known found able
            exact ⟨flags, number, state, more, domain, rfl, allowed, known, found, able,
              succeeded.unique done⟩
  · rintro ⟨flags, number, state, more, domain, rfl, allowed, known, found, able, rfl⟩
    exact setState_carriesOut header more allowed known found able

theorem setState_now (known : state = stateOn ∨ state = stateOff)
    (found : service.domains[number.toNat]? = some domain) :
    (setState header [0, number, state]).CarriesOut service
      { posts := announcement domain number state
        next := service.withDomain number { domain with state } } :=
  setState_carriesOut header [] (.inl rfl) known found nofun

theorem setState_later (known : state = stateOn ∨ state = stateOff)
    (found : service.domains[number.toNat]? = some domain)
    (deferred : domain.config.deferred = true) :
    (setState header [deferredFlag.mask, number, state]).CarriesOut service
      { posts :=
          .delayed header Status.success.code [number, state] ::
            announcement domain number state
        next := service.withDomain number { domain with state } } := by
  have later : deferredFlag.mask = 1 := by decide
  rw [later]
  exact setState_carriesOut header [] (.inr rfl) known found fun _ => deferred

theorem setState_later_refused (known : state = stateOn ∨ state = stateOff)
    (found : service.domains[number.toNat]? = some domain)
    (unable : domain.config.deferred = false) :
    (setState header [deferredFlag.mask, number, state]).Refuses service .notSupported := by
  have later : deferredFlag.mask = 1 := by decide
  rw [later]
  exact setState_unable header [] known found unable

/-- Somebody who waits for changes is told about one. -/
theorem setState_watched (known : state = stateOn ∨ state = stateOff)
    (found : service.domains[number.toNat]? = some domain) :
    (setState header [0, number, state]).CarriesOut
      (service.withDomain number { domain with subscribed := true })
      { posts := [.notification Protocol.power stateChanged [callingAgent, number, state]]
        next := service.withDomain number { domain with state, subscribed := true } } := by
  have done := setState_now header known
    (domains_withDomain { domain with subscribed := true } found)
  rwa [withDomain_withDomain] at done

end SetState

theorem subscribe_carriesOut (wanted : UInt32) (more : List UInt32)
    (found : service.domains[number.toNat]? = some domain)
    (able : domain.config.notify = true) :
    (subscribe (number :: wanted :: more)).CarriesOut service
      { next := service.withDomain number { domain with subscribed := wanted &&& 1 ≠ 0 } } := by
  simp only [Handling.CarriesOut, subscribe, parameter, List.getElem?_cons_zero,
    List.getElem?_cons_succ, Work.handle_lift_ok, Work.handle_state, domain_eq_ok found, able,
    not_true_eq_false, if_false, Work.handle_change, Work.handle_pure]

theorem subscribe_refused (more : List UInt32)
    (found : service.domains[number.toNat]? = some domain)
    (unable : domain.config.notify = false) :
    (subscribe (number :: more)).Refuses service .notSupported := by
  simp [Handling.Refuses, subscribe, parameter, domain_eq_ok found, unable]

theorem subscribe_unknown (more : List UInt32)
    (missing : service.domains.length ≤ number.toNat) :
    (subscribe (number :: more)).Refuses service .notFound := by
  simp [Handling.Refuses, subscribe, parameter, domain_eq_error missing]

theorem subscribe_short (found : service.domains[number.toNat]? = some domain)
    (able : domain.config.notify = true) :
    (subscribe [number]).Refuses service .protocolError := by
  simp [Handling.Refuses, subscribe, parameter, domain_eq_ok found, able]

/-- What a command needs in order to ask for notifications, and what it then does. -/
theorem subscribe_carriesOut_iff (parameters : List UInt32) (outcome : Outcome Service) :
    (subscribe parameters).CarriesOut service outcome ↔
      ∃ number wanted more domain, parameters = number :: wanted :: more ∧
        service.domains[number.toNat]? = some domain ∧ domain.config.notify = true ∧
        outcome =
          { next := service.withDomain number { domain with subscribed := wanted &&& 1 ≠ 0 } } := by
  constructor
  · intro succeeded
    match parameters with
    | [] => cases succeeded
    | number :: rest =>
        cases found : service.domains[number.toNat]? with
        | none =>
            have missing := List.getElem?_eq_none_iff.mp found
            exact absurd (subscribe_unknown rest missing) succeeded.not_refuses
        | some domain =>
            have able : domain.config.notify = true := by
              refine eq_true_of_ne_false fun unable => ?_
              exact succeeded.not_refuses (subscribe_refused rest found unable)
            match rest with
            | [] => exact absurd (subscribe_short found able) succeeded.not_refuses
            | wanted :: more =>
                exact ⟨number, wanted, more, domain, rfl, found, able,
                  succeeded.unique (subscribe_carriesOut wanted more found able)⟩
  · rintro ⟨number, wanted, more, domain, rfl, found, able, rfl⟩
    exact subscribe_carriesOut wanted more found able

theorem subscribe_again (found : service.domains[number.toNat]? = some domain)
    (able : domain.config.notify = true) :
    (subscribe [number, 0]).CarriesOut
      (service.withDomain number { domain with state, subscribed := true })
      { next := service.withDomain number { domain with state, subscribed := false } } := by
  have watched := domains_withDomain { domain with state, subscribed := true } found
  have done := subscribe_carriesOut 0 [] watched able
  rwa [withDomain_withDomain] at done

end Commands

section Perform

variable {number : UInt32} {domain : Domain} (header : Header)

theorem perform_domainAttributes (message : header.message = domainAttributes)
    (found : service.domains[number.toNat]? = some domain) :
    (perform header [number]).CarriesOut service
      { returns :=
          domain.config.attributesWord :: FixedText.encode domain.config.name Protocol.nameWords
        next := service } := by
  simp only [Handling.CarriesOut, perform, message]
  change Work.handle _ (liftM (service.domain number) >>= _) = _
  rw [domain_eq_ok found]
  rfl

theorem perform_domainAttributes_unknown (message : header.message = domainAttributes)
    (missing : service.domains.length ≤ number.toNat) :
    (perform header [number]).Refuses service .notFound := by
  simp only [Handling.Refuses, perform, message]
  change Work.handle _ (liftM (service.domain number) >>= _) = _
  rw [domain_eq_error missing]
  rfl

theorem perform_stateGet (message : header.message = stateGet)
    (found : service.domains[number.toNat]? = some domain) (more : List UInt32) :
    (perform header (number :: more)).CarriesOut service
      { returns := [domain.state], next := service } := by
  simp only [Handling.CarriesOut, perform, message]
  change Work.handle _ (liftM (service.domain number) >>= _) = _
  rw [domain_eq_ok found]
  rfl

theorem perform_stateGet_unknown (message : header.message = stateGet)
    (missing : service.domains.length ≤ number.toNat) (more : List UInt32) :
    (perform header (number :: more)).Refuses service .notFound := by
  simp only [Handling.Refuses, perform, message]
  change Work.handle _ (liftM (service.domain number) >>= _) = _
  rw [domain_eq_error missing]
  rfl

theorem perform_stateSet (message : header.message = stateSet) (parameters : List UInt32) :
    perform header parameters = setState header parameters := by
  rw [perform, message]
  rfl

theorem perform_stateNotify (message : header.message = Power.stateNotify)
    (available : service.stateNotify = true) (parameters : List UInt32) :
    Work.handle { state := service } (perform header parameters) =
      Work.handle { state := service } (subscribe parameters) := by
  have implemented : Power.stateNotify = Power.stateNotify ∧ service.stateNotify = true :=
    ⟨rfl, available⟩
  rw [perform, message, Work.handle_state]
  exact congrArg (Work.handle _) (if_pos implemented)

theorem perform_stateNotify_unavailable (message : header.message = Power.stateNotify)
    (unavailable : ¬service.stateNotify = true) (parameters : List UInt32) :
    (perform header parameters).Refuses service .notFound := by
  have missing : ¬(Power.stateNotify = Power.stateNotify ∧ service.stateNotify = true) :=
    fun ⟨_, available⟩ => unavailable available
  rw [Handling.Refuses, perform, message, Work.handle_state]
  exact congrArg (Work.handle _) (if_neg missing)

end Perform

/-! ### Refusals -/

section Ends

variable {γ : Type} {work : Work Service} {done : γ → Work Service → Prop}
  (parameters : List UInt32)

theorem ends_parameter {next : UInt32 → Handling Service γ} (position : Nat)
    (ends : ∀ value, parameters[position]? = some value →
      work.Ends (next value) (· ≠ .success) done) :
    work.Ends (liftM (parameter parameters position) >>= next) (· ≠ .success) done := by
  apply Work.Ends.lift
  · intro status refused
    unfold parameter at refused
    split at refused <;> cases refused
    decide
  · intro value there
    unfold parameter at there
    split at there <;> cases there
    exact ends value ‹_›

theorem ends_domain {next : Domain → Handling Service γ} (service : Service) (number : UInt32)
    (ends : ∀ domain, service.domains[number.toNat]? = some domain →
      work.Ends (next domain) (· ≠ .success) done) :
    work.Ends (liftM (service.domain number) >>= next) (· ≠ .success) done := by
  apply Work.Ends.lift
  · intro status refused
    unfold Service.domain at refused
    split at refused <;> cases refused
    decide
  · intro domain found
    unfold Service.domain at found
    split at found <;> cases found
    exact ends domain ‹_›

end Ends

/-- What a command brings that is carried out: no more return words than fit into a message, and a
change only if it is one of the two commands that change something. -/
def Performed (service : Service) (header : Header) (returns : List UInt32) (after : Work Service) :
    Prop :=
  returns.length ≤ 24 ∧
    (header.message ≠ stateSet → header.message ≠ Power.stateNotify → after = { state := service })

/-- A command is carried out as a whole, or it is refused and has changed nothing. -/
theorem perform_ends (service : Service) (header : Header) (parameters : List UInt32) :
    Work.Ends { state := service } (perform header parameters) (· ≠ .success)
      (Performed service header) := by
  have unchanged {returns : List UInt32} (short : returns.length ≤ 24) :
      Performed service header returns { state := service } := ⟨short, fun _ _ => rfl⟩
  refine .state <| .ite ?version fun _ => .ite ?attributes fun _ => .ite ?messageAttributes fun _ =>
    .ite ?domainAttributes fun _ => .ite ?set fun _ => .ite ?get fun _ => .ite ?notify fun _ =>
      .throw (by decide)
  case version => exact fun _ => .pure (unchanged (by simp))
  case attributes => exact fun _ => .pure (unchanged (by simp))
  case messageAttributes =>
    exact fun _ => ends_parameter parameters 0 fun asked _ =>
      .ite (fun _ => .pure (unchanged (by simp))) fun _ => .throw (by decide)
  case domainAttributes =>
    refine fun _ => ends_parameter parameters 0 fun number _ =>
      ends_domain service number fun domain _ => .pure (unchanged ?_)
    rw [List.length_cons, FixedText.length_encode]
    decide
  case get =>
    exact fun _ => ends_parameter parameters 0 fun number _ =>
      ends_domain service number fun domain _ => .pure (unchanged (by simp))
  case set =>
    intro message
    have changed {after : Work Service} : Performed service header [] after :=
      ⟨Nat.zero_le _, fun notSet => absurd message notSet⟩
    refine ends_parameter parameters 0 fun flags _ => ends_parameter parameters 1 fun number _ =>
      ends_parameter parameters 2 fun state _ => .ite (fun _ => .throw (by decide)) fun _ =>
        .ite (fun _ => .throw (by decide)) fun _ => .state <| ends_domain service number
          fun domain _ => .ite (fun _ => .throw (by decide)) fun _ => ?_
    -- From here on nothing can go wrong any more, whatever has to be posted.
    by_cases later : deferredFlag.read flags = 0 <;>
      by_cases watched : domain.subscribed = true <;>
      simp only [ne_eq, later, watched, not_true_eq_false, not_false_eq_true, if_false, if_true] <;>
      exact changed
  case notify =>
    rintro ⟨message, -⟩
    have changed {after : Work Service} : Performed service header [] after :=
      ⟨Nat.zero_le _, fun _ notNotify => absurd message notNotify⟩
    refine ends_parameter parameters 0 fun number _ => .state <| ends_domain service number
      fun domain _ => .ite (fun _ => .throw (by decide)) fun _ =>
        ends_parameter parameters 1 fun wanted _ => ?_
    exact changed

end Service

section Attributes

variable (config : DomainConfig)

theorem read_notifySupport : notifySupport.read config.attributesWord = config.notify.toUInt32 := by
  rw [DomainConfig.attributesWord, BitRange.read_overwrite_of_apart (by decide),
    BitRange.read_overwrite_of_apart (by decide), BitRange.read_overwrite_of_fits]
  cases config.notify <;> decide

theorem read_deferredSupport :
    deferredSupport.read config.attributesWord = config.deferred.toUInt32 := by
  rw [DomainConfig.attributesWord, BitRange.read_overwrite_of_apart (by decide),
    BitRange.read_overwrite_of_fits]
  cases config.deferred <;> decide

theorem read_domainReserved :
    domainReservedField.effectiveRange.read config.attributesWord = 0 := by
  rw [DomainConfig.attributesWord, BitRange.read_overwrite_of_apart (by decide),
    BitRange.read_overwrite_of_apart (by decide), BitRange.read_overwrite_of_apart (by decide),
    BitRange.read_zero]

end Attributes

end PlatformAudit.Power
