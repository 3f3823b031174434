import PlatformAudit.Proofs.Audit.CleanRuns
import PlatformAudit.Protocol.Cases

/-!
# Cases that both protocols have

The checks of a version, the cases that ask for each mandatory command, and the cases that go
through what was found.
-/

universe w

namespace PlatformAudit

open Dialogue

namespace Protocol

theorem versionDescriptors_isClean (version : UInt32) :
    ∀ descriptor ∈ versionDescriptors (some version),
      (descriptor.toCheck [version]).IsClean := by
  simp only [versionDescriptors, List.forall_mem_cons]
  refine ⟨?_, ?_, by simp⟩
  · exact Descriptor.toCheck_isClean_of_value rfl rfl rfl rfl
  · exact Descriptor.toCheck_isClean_of_value rfl rfl rfl rfl

theorem messageAttributesDescriptors_isClean (word : UInt32) :
    ∀ descriptor ∈ messageAttributesDescriptors, (descriptor.toCheck [word]).IsClean := by
  have descriptors : messageAttributesDescriptors = [.display (.word "attributes" 0)] := by decide
  rw [descriptors, List.forall_mem_singleton]
  exact Descriptor.toCheck_isClean_of_display rfl rfl rfl

end Protocol

namespace Cleanly

section Loops

variable {σ : Type w} {respond : Responder σ} {plan : Plan} {case : Case} {standing : Standing}
  {state : σ}

/-- A loop over commands that leave the platform as it is. -/
theorem loop {ι : Type} {items : List ι} {body : ι → Script Unit} (kept : CaseState → Prop)
    (round : ∀ item ∈ items, ∀ before, kept before →
      Carries respond (CaseRun.playScript case (body item)) before state
        fun _ _ after last => kept after ∧ last = state)
    {start : CaseState} (holds : kept start) :
    Carries respond
      (CaseRun.playScript case ((Course.forEach items body).bind fun _ => .done Execution.handled))
      start state
      fun _ execution finish last => execution = .handled ∧ kept finish ∧ last = state := by
  rw [CaseRun.carries_playScript_bind]
  have rounds : Carries respond (CaseRun.playScript case (Course.forEach items body)) start state
      fun _ _ after last => kept after ∧ last = state := by
    refine CaseRun.forEach_keeps (fun item member before last before_kept => ?_) ⟨holds, rfl⟩
    obtain ⟨before_kept, rfl⟩ := before_kept
    exact round item member before before_kept
  exact rounds.mono fun _ _ _ _ after_kept => ⟨rfl, after_kept⟩

/-- A platform that has all mandatory commands. -/
theorem askForEach (word : UInt32) {messages : List UInt8}
    (hooks : case.hooks = { execute := Protocol.askForEach messages })
    (role : case.precondition = .none) (immediate : case.delayed = none)
    (expected : case.expectedStatus = .exact .success)
    (returns : ∀ context, PlanRun.expectedReturns plan case context =
      Protocol.messageAttributesDescriptors)
    (answer : ∀ message ∈ messages, ∀ token,
      respond state (.command (CaseRun.nextHeader case case.message token) [message.toUInt32]) =
        (.ok (.answering (CaseRun.nextHeader case case.message token) .success [word]), state)) :
    Cleanly respond (PlanRun.runCase plan case) CaseReport.IsClean (standing.At state)
      (standing.At state) := by
  apply scripted role
  intro start _ holds clean expects
  obtain ⟨stands, rfl⟩ := holds
  rw [hooks, Protocol.askForEach]
  refine (loop
    (fun carried => carried.IsClean ∧ carried.context.standing = standing ∧
      carried.expected = Protocol.messageAttributesDescriptors)
    (fun message member before kept => ?_)
    ⟨clean, stands, expects.trans (returns _)⟩).mono fun _ _ finish last ran => ?_
  · obtain ⟨clean, stands, expects⟩ := kept
    have noted : (before.affected [.check
        { name := "message id", outcome := .info, detail := Text.hex message.toNat }]).IsClean :=
      clean.affected (by simp [Effect.checks])
    simp only [Course.note, Script.checkedCommand, Course.bind, CaseRun.play, carries_bind,
      CaseRun.carries_perform, carries_pure]
    refine (CaseRun.sendChecked_clean noted (answer message member _) immediate
      (by rw [hooks]) ?_ ?_).mono fun _ _ after last sent => ?_
    · rw [CaseRun.statusFor, hooks, expected]
      exact ExpectedStatus.toCheck_exact_isClean .success "status"
    · intro _ descriptor member
      rw [CaseState.affected_expected, expects] at member
      exact Protocol.messageAttributesDescriptors_isClean word descriptor member
    · obtain ⟨-, same, clean, context, expected⟩ := sent
      exact ⟨⟨clean, context ▸ stands, expected.trans expects⟩, same⟩
  · obtain ⟨handled, ⟨clean, stands, -⟩, same⟩ := ran
    exact ⟨handled, clean, stands, same⟩

/-- Whatever was found answers as expected. -/
theorem askAbout {items : List UInt32} {describe : UInt32 → List Descriptor}
    (silent : case.hooks.afterResponse = fun _ => .done ())
    (status : ∀ context, case.hooks.expectedStatus context = none)
    (immediate : case.delayed = none) (expected : case.expectedStatus = .exact .success)
    (answer : ∀ item ∈ items, ∃ words,
      (∀ token,
        respond state (.command (CaseRun.nextHeader case case.message token) [item]) =
          (.ok (.answering (CaseRun.nextHeader case case.message token) .success words), state)) ∧
      ∀ descriptor ∈ describe item, (descriptor.toCheck words).IsClean)
    {start : CaseState} (clean : start.IsClean) (stands : start.context.standing = standing) :
    Carries respond
      (CaseRun.playScript case
        ((Course.forEach items fun item =>
          .expect (describe item) <|
            (Script.checkedCommand [item]).bind fun _ => .done ()).bind fun _ =>
          .done Execution.handled))
      start state
      fun _ execution finish last =>
        execution = .handled ∧ finish.IsClean ∧
          standing.At state finish.context.standing last := by
  refine (loop (fun carried => carried.IsClean ∧ carried.context.standing = standing)
    (fun item member before kept => ?_) ⟨clean, stands⟩).mono fun _ _ finish last ran => ?_
  · obtain ⟨clean, stands⟩ := kept
    obtain ⟨words, answer, fulfilled⟩ := answer item member
    have described : { before with expected := describe item }.IsClean := clean
    simp only [Script.checkedCommand, Course.bind, CaseRun.play, carries_bind, carries_modify,
      carries_pure]
    refine (CaseRun.sendChecked_clean described (answer _) immediate silent ?_
      fun _ => fulfilled).mono fun _ _ after last sent => ?_
    · rw [CaseRun.statusFor, status, expected]
      exact ExpectedStatus.toCheck_exact_isClean .success "status"
    · obtain ⟨-, same, clean, context, -⟩ := sent
      exact ⟨⟨clean, context ▸ stands⟩, same⟩
  · obtain ⟨handled, ⟨clean, stands⟩, same⟩ := ran
    exact ⟨handled, clean, stands, same⟩

end Loops

end Cleanly

end PlatformAudit
