import PlatformAudit.Audit.Agent
import PlatformAudit.Proofs.Audit.Registration
import PlatformAudit.Proofs.Audit.Stamps

/-!
# The stages of an audit

An audit goes through its plans in stages, one for each plan that runs.  Every stage begins with the
next token and with the responder left as by the stage before.  What is asked and what is
reported in an audit is what is asked and reported in its stages.  So commands are stamped without a
gap through the whole audit, and each stage sends commands of its own protocol only.
-/

universe w

namespace PlatformAudit

open Dialogue

namespace Registry

/-- Registries that come from registering plans, one after the other. -/
inductive Built : Registry → Prop where
  | empty : Built .empty
  | register {registry next : Registry} {plan : Plan} (built : Built registry)
      (taken : registry.register plan = .ok next) : Built next

theorem Built.sound {registry : Registry} (built : registry.Built) {id : UInt8} {plan : Plan}
    (found : registry.get? id = some plan) : plan.protocol = id ∧ plan.fault? = none := by
  induction built with
  | empty => simp [ProtocolMap.get?, ProtocolMap.empty] at found
  | @register registry next other built taken induction =>
      obtain ⟨-, sane, rfl⟩ := (registry.register_eq_ok_iff other next).mp taken
      rw [ProtocolMap.get?_insert] at found
      split at found <;> rename_i here
      · obtain rfl : other = plan := Option.some.inj found
        exact ⟨here.symm, other.fault?_eq_none_iff.mpr sane⟩
      · exact induction found

theorem Built.insert {registry : Registry} (built : registry.Built) {plan : Plan}
    (fresh : registry.contains plan.protocol = false) (sane : plan.fault? = none) :
    Registry.Built (registry.insert plan.protocol plan) :=
  built.register (registry.register_of_isSound plan fresh (plan.fault?_eq_none_iff.mp sane))

theorem built_standard : standard.Built := by
  have base : Registry.Built (ProtocolMap.empty.insert Base.plan.protocol Base.plan) :=
    Built.empty.insert rfl (by decide +kernel)
  exact base.insert rfl (by decide +kernel)

end Registry

theorem Plan.cases_protocol {plan : Plan} (sane : plan.fault? = none) :
    ∀ case ∈ plan.cases, case.protocol = plan.protocol := by
  intro case member
  have fine : case.fault? plan.protocol = none :=
    List.findSome?_eq_none_iff.mp sane case member
  unfold Case.fault? at fine
  split at fine <;> rename_i same
  · cases fine
  · exact Decidable.not_not.mp same

/-- The run of one plan in an audit, with the token of its first command and the state in
which the responder is. -/
structure Stage (σ : Type w) where
  plan : Plan
  token : UInt16
  state : σ

namespace Stage

def first {σ : Type w} (base : Plan) (state : σ) : Stage σ where
  plan := base
  token := 0
  state := state

variable {σ : Type w} (respond : Responder σ) (agent : Agent) (stage : Stage σ)

def dialogue : Dialogue (ProtocolReport × PlanState) :=
  stage.plan.runFrom (agent.fixtures.get? stage.plan.protocol) stage.token

def exchanges : List Exchange :=
  (stage.dialogue agent).transcript respond stage.state

/-- What is left in the end, wherever the progress was written down. -/
def outcome : Dialogue.Outcome σ (ProtocolReport × PlanState) :=
  (stage.dialogue agent).run respond stage.state { sink := .nowhere }

def report : ProtocolReport :=
  (stage.outcome respond agent).value.1

def left : UInt16 :=
  (stage.outcome respond agent).value.2.token

def listed : List UInt32 :=
  (stage.outcome respond agent).value.2.context.discovered.list Entity.protocols

theorem leads_dialogue :
    (stage.dialogue agent).Leads respond stage.state
      fun exchanges result last =>
        exchanges = stage.exchanges respond agent ∧
          result = (stage.outcome respond agent).value ∧
          last = (stage.outcome respond agent).state :=
  (leads_iff _ _ { sink := .nowhere } _).mpr ⟨rfl, rfl, rfl⟩

/-- What the dialogue of a stage leads to holds of the stage. -/
theorem of_leads {goal : List Exchange → ProtocolReport × PlanState → σ → Prop}
    (leads : (stage.dialogue agent).Leads respond stage.state goal) :
    goal (stage.exchanges respond agent) (stage.outcome respond agent).value
      (stage.outcome respond agent).state :=
  (leads_iff _ _ _ _).mp leads

theorem protocol_report : (stage.report respond agent).protocol = stage.plan.protocol := by
  have told := (stage.of_leads respond agent
    (stage.plan.run_chronicle respond _ stage.token stage.state)).2
  rw [report, told, ProtocolReport.ofSuites_eq]

end Stage

namespace Agent

variable {σ : Type w} (respond : Responder σ) (agent : Agent)

/-- The stages of the plans that follow.  A plan whose protocol is not listed has none. -/
def stagesFrom (listed : List UInt32) : List Plan → UInt16 → σ → List (Stage σ)
  | [], _, _ => []
  | plan :: rest, token, state =>
      if listed.contains plan.protocol.toUInt32 then
        let stage : Stage σ := { plan, token, state }
        stage ::
          stagesFrom listed rest (stage.left respond agent) (stage.outcome respond agent).state
      else stagesFrom listed rest token state

/-- The stages of an audit: that of the base plan, and those of the plans that are asked for. -/
def stages (base : Plan) (selection : List UInt8) (state : σ) : List (Stage σ) :=
  let first : Stage σ := .first base state
  first ::
    agent.stagesFrom respond (first.listed respond agent) (agent.following selection)
      (first.left respond agent) (first.outcome respond agent).state

variable {agent}

theorem plans_stagesFrom (listed : List UInt32) (plans : List Plan) (token : UInt16) (state : σ) :
    (agent.stagesFrom respond listed plans token state).map (·.plan) =
      plans.filter fun plan => listed.contains plan.protocol.toUInt32 := by
  induction plans generalizing token state with
  | nil => rfl
  | cons plan rest induction =>
      unfold stagesFrom
      split <;> rename_i inside
      · rw [List.map_cons, induction, List.filter_cons, if_pos inside]
      · rw [induction, List.filter_cons, if_neg inside]

/-- The plans that follow are run in their stages, and those that have none are reported. -/
theorem runFollowing_stages (listed : List UInt32) (plans : List Plan) (progress : Agent.Progress)
    (state : σ) :
    (agent.runFollowing listed plans progress).Leads respond state
      fun exchanges after _ =>
        let stages := agent.stagesFrom respond listed plans progress.token state
        exchanges = stages.flatMap (Stage.exchanges respond agent) ∧
          after.report.protocols =
            progress.report.protocols ++ stages.map (Stage.report respond agent) ∧
          after.report.notImplemented =
            progress.report.notImplemented ++
              (plans.filter fun plan => !listed.contains plan.protocol.toUInt32).map
                (·.protocol) := by
  induction plans generalizing progress state with
  | nil => simp [runFollowing, stagesFrom]
  | cons plan rest induction =>
      unfold runFollowing stagesFrom
      split <;> rename_i inside
      · let stage : Stage σ := { plan, token := progress.token, state }
        rw [leads_bind]
        apply (stage.leads_dialogue respond agent).mono
        rintro _ _ _ ⟨rfl, rfl, rfl⟩
        apply (induction _ _).mono
        rintro _ after _ ⟨rfl, protocols, notImplemented⟩
        refine ⟨rfl, ?_, ?_⟩
        · rw [protocols, List.map_cons]
          exact List.append_assoc _ _ _
        · rw [notImplemented, List.filter_cons, if_neg (by simpa using inside)]
          rfl
      · rw [leads_say]
        apply (induction _ _).mono
        rintro _ after _ ⟨rfl, protocols, notImplemented⟩
        refine ⟨rfl, protocols, ?_⟩
        rw [notImplemented, List.filter_cons, if_pos (by simpa using inside)]
        exact List.append_assoc _ _ _

theorem audit_stages {base : Plan} (own : base.protocol = Protocol.base)
    (selection : List UInt8) (transport : String) (state : σ) :
    (agent.audit base selection transport).Leads respond state
      fun exchanges report _ =>
        let stages := agent.stages respond base selection state
        let listed := (Stage.first base state).listed respond agent
        exchanges = stages.flatMap (Stage.exchanges respond agent) ∧
          report.protocols = stages.map (Stage.report respond agent) ∧
          report.notImplemented =
            ((agent.following selection).filter
              fun plan => !listed.contains plan.protocol.toUInt32).map (·.protocol) := by
  have first := (Stage.first base state).leads_dialogue respond agent
  rw [leads_audit, auditFrom, leads_bind]
  rw [Stage.dialogue, Stage.first, own] at first
  apply first.mono
  rintro _ _ _ ⟨rfl, rfl, rfl⟩
  rw [leads_bind]
  apply (agent.runFollowing_stages respond _ _ _ _).mono
  rintro _ after _ ⟨rfl, protocols, notImplemented⟩
  rw [leads_say, leads_done, List.append_nil]
  exact ⟨rfl, protocols, notImplemented⟩

theorem of_mem_following (built : agent.plans.Built) {selection : List UInt8} {plan : Plan}
    (member : plan ∈ agent.following selection) :
    agent.plans.get? plan.protocol = some plan ∧ isFollowing selection plan.protocol = true := by
  obtain ⟨⟨id, _⟩, among, rfl⟩ := List.mem_map.mp member
  obtain ⟨entry, asked⟩ := List.mem_filter.mp among
  have found := (agent.plans.mem_entries_iff _ _).mp entry
  obtain ⟨rfl, -⟩ := built.sound found
  exact ⟨found, asked⟩

theorem protocols_following (built : agent.plans.Built) (selection : List UInt8) :
    (agent.following selection).map (·.protocol) =
      agent.plans.ids.filter (isFollowing selection) := by
  unfold following ProtocolMap.ids
  rw [List.map_map, List.filter_map]
  apply List.map_congr_left
  rintro ⟨id, plan⟩ member
  have found := (agent.plans.mem_entries_iff _ _).mp (List.mem_filter.mp member).1
  exact (built.sound found).1

theorem plans_stages (base : Plan) (selection : List UInt8) (state : σ) :
    (agent.stages respond base selection state).map (·.plan) =
      base :: (agent.following selection).filter fun plan =>
        ((Stage.first base state).listed respond agent).contains plan.protocol.toUInt32 := by
  rw [stages, List.map_cons, plans_stagesFrom]
  rfl

theorem registered_of_mem_stages (built : agent.plans.Built) {base : Plan}
    (found : agent.plans.get? Protocol.base = some base) {selection : List UInt8} {state : σ}
    {stage : Stage σ}
    (member : stage ∈ agent.stages respond base selection state) :
    agent.plans.get? stage.plan.protocol = some stage.plan := by
  have among := List.mem_map_of_mem (f := Stage.plan) member
  rw [plans_stages] at among
  rcases List.mem_cons.mp among with first | later
  · rw [first, (built.sound found).1]
    exact found
  · exact (of_mem_following built (List.mem_filter.mp later).1).1

end Agent

/-- A stage sends commands of its protocol, from the token on that it begins with. -/
theorem Stage.issues {σ : Type w} (respond : Responder σ) {agent : Agent}
    (built : agent.plans.Built) {stage : Stage σ}
    (registered : agent.plans.get? stage.plan.protocol = some stage.plan) :
    Issues stage.plan.protocol stage.token (stage.exchanges respond agent)
      (stage.left respond agent) :=
  stage.of_leads respond agent
    (Plan.run_issues (Plan.cases_protocol (built.sound registered).2) _ _ _)

namespace Agent

variable {σ : Type w} (respond : Responder σ) {agent : Agent}

theorem stagesFrom_stamped (built : agent.plans.Built) (listed : List UInt32) {plans : List Plan}
    (registered : ∀ plan ∈ plans, agent.plans.get? plan.protocol = some plan) (token : UInt16)
    (state : σ) :
    StampedFrom token
      (headersOf ((agent.stagesFrom respond listed plans token state).flatMap
        (Stage.exchanges respond agent))) := by
  induction plans generalizing token state with
  | nil => trivial
  | cons plan rest induction =>
      rw [List.forall_mem_cons] at registered
      unfold stagesFrom
      split
      · let stage : Stage σ := { plan, token, state }
        have first := stage.issues respond built registered.1
        have others := induction registered.2 (stage.left respond agent)
          (stage.outcome respond agent).state
        rw [List.flatMap_cons, headersOf_append]
        exact first.stamped_append others
      · exact induction registered.2 token state

theorem stages_stamped (built : agent.plans.Built) {base : Plan}
    (found : agent.plans.get? Protocol.base = some base) (selection : List UInt8) (state : σ) :
    StampedFrom 0
      (headersOf ((agent.stages respond base selection state).flatMap
        (Stage.exchanges respond agent))) := by
  have registered (plan : Plan) (member : plan ∈ agent.following selection) :
      agent.plans.get? plan.protocol = some plan :=
    (of_mem_following built member).1
  have own : base.protocol = Protocol.base := (built.sound found).1
  have first := (Stage.first base state).issues respond built (own ▸ found)
  rw [stages, List.flatMap_cons, headersOf_append]
  exact first.stamped_append (stagesFrom_stamped respond built _ registered _ _)

/-- Every command of an audit is stamped with its number, and belongs to the protocol of the plan
that is being run.  So among any 1024 commands in a row no token comes twice. -/
theorem run_stamps_commands (built : agent.plans.Built) {selection : List UInt8}
    {transport : String} {dialogue : Dialogue RunReport}
    (begun : agent.run selection transport = .ok dialogue) (state : σ) :
    let commands := headersOf (dialogue.transcript respond state)
    (∀ (number : Nat) (header : Header), commands[number]? = some header →
        header.reserved = 0 ∧ header.kind = .command ∧ header.token.toNat = number % 1024) ∧
      (∀ start, (((commands.drop start).take 1024).map (·.token)).Nodup) ∧
      ∃ base, agent.plans.get? Protocol.base = some base ∧
        let stages := agent.stages respond base selection state
        dialogue.transcript respond state = stages.flatMap (Stage.exchanges respond agent) ∧
          ∀ stage ∈ stages, agent.plans.get? stage.plan.protocol = some stage.plan ∧
            ∀ header ∈ headersOf (stage.exchanges respond agent),
              header.protocol = stage.plan.protocol := by
  intro commands
  obtain ⟨base, found, rfl⟩ := run_eq_ok begun
  have own : base.protocol = Protocol.base := (built.sound found).1
  have transcript := ((leads_iff _ _ { sink := .nowhere } _).mp
    (agent.audit_stages respond own selection transport state)).1
  have stamped : StampedFrom 0 commands := by
    unfold commands
    rw [transcript]
    exact stages_stamped respond built found selection state
  refine ⟨fun number header place => ?_, stamped.nodup_window, base, found, transcript, ?_⟩
  · have counted := stamped.toNat_token place
    rw [UInt16.toNat_zero, Nat.zero_add] at counted
    exact ⟨(stamped.isStamped place).reserved, (stamped.isStamped place).kind, counted⟩
  · intro stage member
    have registered := registered_of_mem_stages respond built found member
    exact ⟨registered, (stage.issues respond built registered).protocol_eq⟩

/-- A case that sends more commands than there are tokens.  The last of them follows the silence,
and the power protocol then counts as listed. -/
def longCase : Case where
  id := "often"
  protocol := Protocol.base
  message := 0
  hooks :=
    { execute :=
        (Course.forEach (List.range 1023) fun _ =>
          (Course.command 0 []).bind fun _ => .done ()).bind fun _ => .done .standard
      onSilence :=
        .send 1 [] fun _ =>
          .performs [.discover (.record Entity.protocols [Protocol.power.toUInt32])] }

def longPlan : Plan where
  protocol := Protocol.base
  name := "Base"
  suites := [.ofCases "only" [longCase]]

def shortPlan : Plan where
  protocol := Protocol.power
  name := "Power"
  suites := [.ofCases "only" [{ id := "once", protocol := Protocol.power, message := 0 }]]

def longWinded : Agent where
  plans :=
    (ProtocolMap.empty.insert longPlan.protocol longPlan).insert shortPlan.protocol shortPlan

/-- Behind the token 1023 comes the token 0 in the same plan, and the next plan goes on with 1. -/
theorem run_on_silence_stamps_commands :
    ∃ dialogue, longWinded.run [] "mock" = .ok dialogue ∧
      let commands := headersOf
        (dialogue.transcript (fun (_ : Unit) _ => (.error (.silence 10), ())) ())
      commands.length = 1026 ∧
        (∀ (number : Nat) (header : Header), commands[number]? = some header →
          header.token.toNat = number % 1024) ∧
        (commands.drop 1023).map (·.protocol) =
          [Protocol.base, Protocol.base, Protocol.power] := by
  have begun : longWinded.run [] "mock" = .ok (longWinded.audit longPlan [] "mock") := rfl
  have first : Registry.Built (ProtocolMap.empty.insert longPlan.protocol longPlan) :=
    Registry.Built.empty.insert rfl (by decide +kernel)
  have built : longWinded.plans.Built := first.insert rfl (by decide +kernel)
  refine ⟨_, begun, ?_⟩
  intro commands
  have stamped := (run_stamps_commands (fun (_ : Unit) _ => (.error (.silence 10), ()))
    built begun ()).1
  have protocols : (commands.drop 1023).map (·.protocol) =
      [Protocol.base, Protocol.base, Protocol.power] := by
    decide +kernel
  have length : commands.length = 1026 := by
    have behind := congrArg List.length protocols
    simp only [List.length_map, List.length_drop, List.length_cons, List.length_nil] at behind
    omega
  exact ⟨length, fun number header found => (stamped number header found).2.2, protocols⟩

end Agent

end PlatformAudit
