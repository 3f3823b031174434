import PlatformAudit.Platform.Scripted
import PlatformAudit.Proofs.Audit.CaseLogic
import PlatformAudit.Proofs.Link.Requests

/-!
# Late completions

A late completion is compared with the header of the immediate answer.  A link makes sure that this
header has the protocol and the message of the command, but not that it has its token.
-/

universe w

namespace PlatformAudit

open Dialogue

/-- Whether a late message completes a command: protocol, message and token agree. -/
def Header.CompletedBy (sent received : Header) : Prop :=
  sent.Matches received ∧ sent.token = received.token

namespace Link

variable {σ : Type w} {link : Link σ} {state next : σ} {header : Header}
  {parameters : List UInt32} {response : Response}

theorem matches_of_answer
    (answer : link.answer state (.command header parameters) = (.ok response, next)) :
    header.Matches response.header := by
  simp only [Link.answer, send] at answer
  split at answer
  · simp at answer
  · simp only [Prod.mk.injEq] at answer
    exact (acceptAnswer_eq_ok_iff.mp answer.1).2

end Link

namespace CaseRun

theorem headerCheck_passed_iff (sent received : Header) :
    (headerCheck sent received).outcome = .passed ↔ sent.CompletedBy received := by
  unfold headerCheck Header.CompletedBy
  split <;> simp [*]

theorem headerCheck_failed_iff (sent received : Header) :
    (headerCheck sent received).outcome = .failed ↔ ¬sent.CompletedBy received := by
  unfold headerCheck Header.CompletedBy
  split <;> simp [*]

theorem headerCheck_ne_error (sent received : Header) :
    (headerCheck sent received).outcome ≠ .error := by
  unfold headerCheck
  split <;> simp

/-- Headers that match a common one differ in the token only, as far as completions go. -/
theorem completedBy_iff_of_matches {sent answered received : Header}
    (matching : sent.Matches answered) :
    answered.CompletedBy received ↔ sent.Matches received ∧ answered.token = received.token := by
  unfold Header.CompletedBy Header.Matches at *
  rw [matching.1, matching.2]

/-- What a comparison with an answer says of a completion is what a comparison with the command
would say, unless exactly one of the two tokens is that of the completion. -/
theorem completedBy_iff_completedBy {sent answered received : Header}
    (matching : sent.Matches answered) :
    (answered.CompletedBy received ↔ sent.CompletedBy received) ↔
      (sent.Matches received →
        (answered.token = received.token ↔ sent.token = received.token)) := by
  rw [completedBy_iff_of_matches matching, Header.CompletedBy]
  exact and_congr_right_iff

/-- The check of the header of a late completion passes if the completion has the protocol and the
message of the command and the token of the immediate answer, and fails otherwise, whatever the
hooks of the case have done in between.  It tells whether the completion belongs to the command if
not exactly one of the answer and the command has the token of the completion. -/
theorem sendChecked_delayed_header {σ : Type w} (link : Link σ) (case : Case)
    {descriptors : List Descriptor} (expects : case.delayed = some descriptors)
    (parameters : List UInt32) (status : Option ExpectedStatus) (before : CaseState)
    {state middle between last : σ} {response completion : Response} {hooked : List Exchange}
    {followed : CaseState}
    (answer :
      link.answer state (.command (nextHeader case case.message before.token) parameters) =
        (.ok response, middle))
    (succeeded : response.Succeeded)
    (reacts :
      Carries link.answer (playPlain case (case.hooks.afterResponse response))
        (checked case status before response) middle
        fun exchanges _ after final => exchanges = hooked ∧ after = followed ∧ final = between)
    (late : link.answer between (.await .delayedResponse) = (.ok completion, last)) :
    let sent := nextHeader case case.message before.token
    Carries link.answer (sendChecked case parameters status) before state
      fun exchanges value after final =>
        exchanges =
            (.command sent parameters, .ok response) ::
              (hooked ++ [(.await .delayedResponse, .ok completion)]) ∧
          value = some response ∧ final = last ∧
          ∃ check,
            after.checks =
                followed.checks ++
                  check :: (completionChecks response.header descriptors completion).tail ∧
              check.name = "delayed header" ∧
              (check.outcome = .passed ↔
                sent.Matches completion.header ∧
                  response.header.token = completion.header.token) ∧
              (check.outcome = .failed ↔
                ¬(sent.Matches completion.header ∧
                  response.header.token = completion.header.token)) ∧
              ((check.outcome = .passed ↔ sent.CompletedBy completion.header) ↔
                (sent.Matches completion.header →
                  (response.header.token = completion.header.token ↔
                    sent.token = completion.header.token))) := by
  intro sent
  have matching : sent.Matches response.header := link.matches_of_answer answer
  rw [carries_sendChecked_promised answer expects succeeded]
  apply reacts.mono
  rintro _ _ _ _ ⟨rfl, rfl, rfl⟩
  rw [carries_awaitCompletion_answered late]
  refine ⟨rfl, rfl, rfl, headerCheck response.header completion.header, rfl,
    headerCheck_name _ _, ?_, ?_, ?_⟩
  · rw [headerCheck_passed_iff, completedBy_iff_of_matches matching]
  · rw [headerCheck_failed_iff, completedBy_iff_of_matches matching]
  · rw [headerCheck_passed_iff, completedBy_iff_completedBy matching]

/-- A platform whose immediate answers garble the token, and whose completions do not. -/
def garblingBoard : Switchboard Scripted where
  handlers :=
    ProtocolMap.empty.insert 9
      { rules :=
          [ { edit := { tokenFlips := 5 }
              delayed := [{ edit := {}, status := Status.success.code, returns := [] }] } ] }

def lateCase : Case where
  id := "late"
  protocol := 9
  message := 1
  delayed := some []

/-- The completion that the platform promises for the first command of that case. -/
def lateCompletion : Response where
  header := { protocol := 9, kind := .delayedResponse, message := 1 }
  status := Status.success.code
  returns := []

/-- A completion that belongs to its command is refused if the immediate answer has another
token. -/
theorem sendChecked_delayed_header_garbled :
    (nextHeader lateCase lateCase.message 0).CompletedBy lateCompletion.header ∧
      Carries (Switchboard.link : Link (Switchboard Scripted)).answer
        (sendChecked lateCase [] none) { token := 0, context := .start 9 "late" ["late"] 0 none }
        garblingBoard
        fun exchanges _ after _ =>
          (.await .delayedResponse, .ok lateCompletion) ∈ exchanges ∧
            ∃ check ∈ after.checks, check.name = "delayed header" ∧ check.outcome = .failed := by
  refine ⟨⟨⟨rfl, rfl⟩, by decide⟩, ?_⟩
  have answer :
      (Switchboard.link : Link (Switchboard Scripted)).answer garblingBoard
          (.command (nextHeader lateCase lateCase.message 0) []) =
        (.ok
          { header := { token := 5, protocol := 9, message := 1 }
            status := Status.success.code
            returns := [] },
          { garblingBoard with pending := { delayed := [lateCompletion] } }) := by
    rfl
  have late :
      (Switchboard.link : Link (Switchboard Scripted)).answer
          { garblingBoard with pending := { delayed := [lateCompletion] } }
          (.await .delayedResponse) =
        (.ok lateCompletion, garblingBoard) := by
    rfl
  apply (sendChecked_delayed_header Switchboard.link lateCase rfl [] none
    { token := 0, context := .start 9 "late" ["late"] 0 none } answer rfl ⟨rfl, rfl, rfl⟩ late).mono
  rintro exchanges value after final ⟨same, -, -, check, checks, name, -, failed, -⟩
  refine ⟨by simp [same], check, by simp [checks], name, failed.mpr ?_⟩
  rintro ⟨-, tokens⟩
  exact absurd tokens (by decide)

end CaseRun

end PlatformAudit
