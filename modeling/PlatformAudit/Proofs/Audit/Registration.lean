import PlatformAudit.Proofs.Audit.Chronicle
import PlatformAudit.Proofs.Plan.Evaluation
import PlatformAudit.Proofs.Protocol.ProtocolMap
import PlatformAudit.Protocol.Base.Plan
import PlatformAudit.Protocol.Power.Plan

/-!
# Offering plans to a registry

Plans are offered to a registry one after the other.  A registry takes the first plan of each
protocol that is sound and refuses all others, each with what is wrong with it first.  Whether a
plan is sound is seen from its tables before anything runs.  It covers all that runs later: no case
that has its turn belongs to another protocol, and no descriptor of its table looks behind the
largest answer.
-/

universe w

namespace PlatformAudit

namespace Case

/-- A case that may be in the plan of a protocol. -/
structure IsSound (protocol : UInt8) (case : Case) : Prop where
  protocol : case.protocol = protocol
  fits : ∀ descriptor ∈ case.descriptors, descriptor.field.FitsPayload

/-- What is wrong with a case first.  That it is foreign comes before all that its table says. -/
inductive IsFaulty (protocol : UInt8) (case : Case) : RegistryError → Prop where
  | foreign (different : case.protocol ≠ protocol) :
      IsFaulty protocol case (.foreignCase protocol case.id)
  | outOfRange {before behind : List Descriptor} {descriptor : Descriptor}
      (own : case.protocol = protocol)
      (split : case.descriptors = before ++ descriptor :: behind)
      (inside : ∀ earlier ∈ before, earlier.field.FitsPayload)
      (outside : ¬descriptor.field.FitsPayload) :
      IsFaulty protocol case (.fieldOutOfRange case.id descriptor.field.name)

variable (protocol : UInt8) (case : Case)

theorem fault?_eq_none_iff : case.fault? protocol = none ↔ case.IsSound protocol := by
  unfold fault?
  split <;> rename_i own
  · exact ⟨nofun, fun sound => absurd sound.protocol own⟩
  · rw [Option.map_eq_none_iff, List.find?_eq_none]
    constructor
    · intro fits
      exact ⟨Decidable.not_not.mp own, by simpa using fits⟩
    · intro sound
      simpa using sound.fits

theorem fault?_eq_some_iff (error : RegistryError) :
    case.fault? protocol = some error ↔ case.IsFaulty protocol error := by
  unfold fault?
  constructor
  · intro found
    split at found <;> rename_i own
    · obtain rfl := Option.some.inj found
      exact .foreign own
    · obtain ⟨descriptor, first, rfl⟩ := Option.map_eq_some_iff.mp found
      obtain ⟨outside, before, behind, split, inside⟩ := List.find?_eq_some_iff_append.mp first
      exact .outOfRange (Decidable.not_not.mp own) split (by simpa using inside)
        (by simpa using outside)
  · intro faulty
    cases faulty with
    | foreign different => rw [if_pos different]
    | outOfRange own split inside outside =>
        rw [if_neg (by simpa using own), Option.map_eq_some_iff]
        refine ⟨_, List.find?_eq_some_iff_append.mpr ⟨by simpa using outside, _, _, split, ?_⟩, rfl⟩
        simpa using inside

end Case

namespace Plan

def IsSound (plan : Plan) : Prop :=
  ∀ case ∈ plan.cases, case.IsSound plan.protocol

/-- What is wrong with the first case of a plan that is not sound. -/
def IsFaulty (plan : Plan) (error : RegistryError) : Prop :=
  ∃ before case behind, plan.cases = before ++ case :: behind ∧
    (∀ earlier ∈ before, earlier.IsSound plan.protocol) ∧ case.IsFaulty plan.protocol error

variable (plan : Plan)

theorem fault?_eq_none_iff : plan.fault? = none ↔ plan.IsSound := by
  unfold fault? IsSound
  simp only [List.findSome?_eq_none_iff, Case.fault?_eq_none_iff]

theorem fault?_eq_some_iff (error : RegistryError) :
    plan.fault? = some error ↔ plan.IsFaulty error := by
  unfold fault? IsFaulty
  simp only [List.findSome?_eq_some_iff, Case.fault?_eq_some_iff, Case.fault?_eq_none_iff]
  constructor
  · rintro ⟨before, case, behind, split, faulty, sound⟩
    exact ⟨before, case, behind, split, sound, faulty⟩
  · rintro ⟨before, case, behind, split, sound, faulty⟩
    exact ⟨before, case, behind, split, faulty, sound⟩

end Plan

namespace Registry

def offer (registry : Registry) (plan : Plan) : Registry :=
  (registry.answerOffer plan).2

def offerAll (registry : Registry) (offers : List Plan) : Registry :=
  offers.foldl offer registry

/-- Why a registry refuses a plan.  That its protocol is taken comes before all that is wrong with
the plan. -/
inductive Refuses (registry : Registry) (plan : Plan) : RegistryError → Prop where
  | duplicate (taken : registry.contains plan.protocol = true) :
      Refuses registry plan (.duplicateProtocol plan.protocol)
  | faulty {error : RegistryError} (fresh : registry.contains plan.protocol = false)
      (faulty : plan.IsFaulty error) : Refuses registry plan error

section Offer

variable (registry : Registry) (plan : Plan)

theorem answerOffer_of_refuses {error : RegistryError} (refuses : registry.Refuses plan error) :
    registry.answerOffer plan = (.error error, registry) := by
  unfold answerOffer
  cases refuses with
  | duplicate taken => rw [if_pos taken]
  | faulty fresh faulty => rw [if_neg (by simp [fresh]), (plan.fault?_eq_some_iff _).mpr faulty]

theorem answerOffer_of_isSound (fresh : registry.contains plan.protocol = false)
    (sound : plan.IsSound) :
    registry.answerOffer plan = (.ok (), registry.insert plan.protocol plan) := by
  rw [answerOffer, if_neg (by simp [fresh]), plan.fault?_eq_none_iff.mpr sound]

theorem refuses_or_isSound :
    (∃ error, registry.Refuses plan error) ∨
      registry.contains plan.protocol = false ∧ plan.IsSound := by
  cases taken : registry.contains plan.protocol with
  | true => exact .inl ⟨_, .duplicate taken⟩
  | false =>
      cases found : plan.fault? with
      | some error => exact .inl ⟨error, .faulty taken ((plan.fault?_eq_some_iff error).mp found)⟩
      | none => exact .inr ⟨rfl, plan.fault?_eq_none_iff.mp found⟩

theorem register_of_refuses {error : RegistryError} (refuses : registry.Refuses plan error) :
    registry.register plan = .error error := by
  rw [register, registry.answerOffer_of_refuses plan refuses]

theorem register_of_isSound (fresh : registry.contains plan.protocol = false)
    (sound : plan.IsSound) :
    registry.register plan = .ok (registry.insert plan.protocol plan) := by
  rw [register, registry.answerOffer_of_isSound plan fresh sound]

theorem register_eq_error_iff (error : RegistryError) :
    registry.register plan = .error error ↔ registry.Refuses plan error := by
  refine ⟨fun refused => ?_, registry.register_of_refuses plan⟩
  rcases registry.refuses_or_isSound plan with ⟨cause, refuses⟩ | ⟨fresh, sound⟩
  · rw [registry.register_of_refuses plan refuses] at refused
    exact Except.error.inj refused ▸ refuses
  · rw [registry.register_of_isSound plan fresh sound] at refused
    cases refused

theorem register_eq_ok_iff (next : Registry) :
    registry.register plan = .ok next ↔
      registry.contains plan.protocol = false ∧ plan.IsSound ∧
        next = registry.insert plan.protocol plan := by
  constructor
  · intro accepted
    rcases registry.refuses_or_isSound plan with ⟨cause, refuses⟩ | ⟨fresh, sound⟩
    · rw [registry.register_of_refuses plan refuses] at accepted
      cases accepted
    · rw [registry.register_of_isSound plan fresh sound] at accepted
      exact ⟨fresh, sound, (Except.ok.inj accepted).symm⟩
  · rintro ⟨fresh, sound, rfl⟩
    exact registry.register_of_isSound plan fresh sound

theorem get?_offer (id : UInt8) :
    (registry.offer plan).get? id =
      (registry.get? id).or
        (if plan.protocol = id ∧ plan.fault? = none then some plan else none) := by
  unfold offer
  rcases registry.refuses_or_isSound plan with ⟨error, refuses⟩ | ⟨fresh, sound⟩
  · rw [registry.answerOffer_of_refuses plan refuses]
    cases refuses with
    | duplicate taken =>
        by_cases same : plan.protocol = id
        · obtain ⟨holder, found⟩ := Option.isSome_iff_exists.mp taken
          rw [← same, found, Option.some_or]
        · simp [same]
    | faulty fresh faulty =>
        simp [(plan.fault?_eq_some_iff error).mpr faulty]
  · rw [registry.answerOffer_of_isSound plan fresh sound, ProtocolMap.get?_insert,
      plan.fault?_eq_none_iff.mpr sound]
    by_cases same : id = plan.protocol
    · subst same
      have free : registry.get? plan.protocol = none := by
        simpa [ProtocolMap.contains] using fresh
      simp [free]
    · simp [same, Ne.symm same]

end Offer

/-- Plans that are offered to a registry do not displace those that it has.  Where it has none, the
first sound one is taken. -/
theorem get?_offerAll (registry : Registry) (offers : List Plan) (id : UInt8) :
    (registry.offerAll offers).get? id =
      (registry.get? id).or
        (offers.find? fun plan => plan.protocol = id ∧ plan.fault? = none) := by
  induction offers generalizing registry with
  | nil => simp [offerAll]
  | cons plan rest induction =>
      have later := induction (registry.offer plan)
      rw [get?_offer, Option.or_assoc] at later
      have offered : registry.offerAll (plan :: rest) = (registry.offer plan).offerAll rest := rfl
      rw [offered, later]
      by_cases first : plan.protocol = id ∧ plan.fault? = none
      · rw [if_pos first, List.find?_cons_of_pos (by simpa using first), Option.some_or]
      · rw [if_neg first, List.find?_cons_of_neg (by simpa using first), Option.none_or]

/-- What a registry holds that has been offered some plans: the first sound one of each protocol. -/
theorem get?_offered_iff (offers : List Plan) (id : UInt8) (plan : Plan) :
    (Registry.offerAll .empty offers).get? id = some plan ↔
      ∃ before behind, offers = before ++ plan :: behind ∧ plan.protocol = id ∧ plan.IsSound ∧
        ∀ earlier ∈ before, earlier.protocol = id → ¬earlier.IsSound := by
  have free : ProtocolMap.empty.get? id = (none : Option Plan) := rfl
  rw [get?_offerAll, free, Option.none_or, List.find?_eq_some_iff_append]
  simp only [← Plan.fault?_eq_none_iff]
  constructor
  · rintro ⟨first, before, behind, split, refused⟩
    obtain ⟨own, sound⟩ : plan.protocol = id ∧ plan.fault? = none := by simpa using first
    exact ⟨before, behind, split, own, sound, by simpa [← imp_iff_not_or] using refused⟩
  · rintro ⟨before, behind, split, own, sound, refused⟩
    exact ⟨by simp [own, sound], before, behind, split, by simpa [← imp_iff_not_or] using refused⟩

/-- A registry holds the first sound plan of each protocol that it was offered.  It refuses a plan
for the first thing that is wrong, and is then left as it was.  Whatever has its turn in a run of a
plan that it holds belongs to the protocol of the plan, and finds all that its table looks at in an
answer of full length. -/
theorem offers_cover_runs {σ : Type w} (respond : Responder σ) (offers : List Plan) :
    let registry := Registry.offerAll .empty offers
    (∀ id plan, registry.get? id = some plan ↔
        ∃ before behind, offers = before ++ plan :: behind ∧ plan.protocol = id ∧ plan.IsSound ∧
          ∀ earlier ∈ before, earlier.protocol = id → ¬earlier.IsSound) ∧
      (∀ plan error, registry.register plan = .error error ↔ registry.Refuses plan error) ∧
      (∀ plan error, registry.register plan = .error error → registry.offer plan = registry) ∧
      ∀ id plan, registry.get? id = some plan → ∀ fixture token state journal,
        let chronicle := plan.chronicle respond fixture token state
        (plan.runFrom fixture token).transcript respond state = chronicle.flatMap Chapter.exchanges ∧
          ((plan.runFrom fixture token).run respond state journal).value.1.suites =
            chronicle.map Chapter.report ∧
          ∀ chapter ∈ chronicle, ∀ episode ∈ chapter.episodes,
            episode.case.protocol = id ∧
              ∀ descriptor ∈ episode.case.returns ++ episode.case.delayed.getD [],
                ∀ payload : List UInt32, payload.length = maxReturnWords →
                  descriptor.evaluate payload ≠ Descriptor.missing payload := by
  intro registry
  refine ⟨get?_offered_iff offers, registry.register_eq_error_iff, ?_, ?_⟩
  · intro plan error refused
    have refuses := (registry.register_eq_error_iff plan error).mp refused
    rw [offer, registry.answerOffer_of_refuses plan refuses]
  · intro id plan found fixture token state journal
    obtain ⟨-, -, -, rfl, sound, -⟩ := (get?_offered_iff offers id plan).mp found
    refine ⟨plan.transcript_run respond fixture token state,
      plan.suites_run respond fixture token state journal, ?_⟩
    intro chapter member episode inside
    obtain ⟨case, among, carried, reached, rfl⟩ :=
      plan.exists_of_mem_chronicle respond fixture token state member inside
    refine ⟨(sound case among).protocol, ?_⟩
    intro descriptor ofTable payload full
    rw [ne_eq, descriptor.evaluate_eq_missing_iff, not_not]
    exact Descriptor.reaches_of_fits ((sound case among).fits descriptor ofTable) full

/-- A plan whose cases are all foreign does not keep a sound plan of the same protocol out, and
keeps being refused. -/
theorem offers_cover_runs_past_foreign :
    let foreign : Plan := { Base.plan with protocol := Protocol.power }
    let registry := Registry.offerAll .empty [foreign, Power.plan, foreign]
    registry.get? Protocol.power = some Power.plan ∧
      registry.register foreign = .error (.duplicateProtocol Protocol.power) ∧
      registry.offer foreign = registry := by
  intro foreign registry
  have covers := offers_cover_runs (fun (state : Unit) _ => (.error (.silence 10), state))
    [foreign, Power.plan, foreign]
  obtain ⟨holds, refuses, unchanged, -⟩ := covers
  have unsound : ¬foreign.IsSound := by
    rw [← Plan.fault?_eq_none_iff]
    decide +kernel
  have sound : Power.plan.IsSound := Power.plan.fault?_eq_none_iff.mp (by decide +kernel)
  have found : registry.get? Protocol.power = some Power.plan :=
    (holds _ _).mpr ⟨[foreign], [foreign], rfl, rfl, sound, by simpa using fun _ => unsound⟩
  have refused : registry.register foreign = .error (.duplicateProtocol Protocol.power) :=
    (refuses _ _).mpr (.duplicate (by rw [ProtocolMap.contains]; exact found ▸ rfl))
  exact ⟨found, refused, unchanged _ _ refused⟩

end Registry

end PlatformAudit
