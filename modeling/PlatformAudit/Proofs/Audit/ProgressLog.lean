import PlatformAudit.Proofs.Audit.CheckNames
import PlatformAudit.Proofs.Audit.JournalLogic

/-!
# The progress of a plan

The lines that the run of a plan says and the report that it ends with come about apart from each
other.  They tell the same nevertheless: a case says a line for each check that it notes and no
other, so that the lines of a run are found again in its report.
-/

universe w

namespace PlatformAudit

open Dialogue

namespace Text

/-- There is a last character, and it is no blank. -/
def EndsVisibly (text : String) : Prop :=
  ∃ char, text.toList.getLast? = some char ∧ isBlank char = false

theorem EndsVisibly.append {text : String} (visible : EndsVisibly text) (front : String) :
    EndsVisibly (front ++ text) := by
  obtain ⟨char, last, shown⟩ := visible
  refine ⟨char, ?_, shown⟩
  rw [String.toList_append, List.getLast?_append, last]
  rfl

theorem EndsVisibly.withoutTrailingBlanks {text : String} (visible : EndsVisibly text) :
    withoutTrailingBlanks text = text := by
  obtain ⟨char, last, shown⟩ := visible
  obtain ⟨front, split⟩ := List.getLast?_eq_some_iff.mp last
  rw [Text.withoutTrailingBlanks, split, List.reverse_append, List.reverse_singleton,
    List.singleton_append, List.dropWhile_cons_of_neg (by simp [shown]), List.reverse_cons,
    List.reverse_reverse, ← split, String.ofList_toList]

end Text

theorem Status.text_endsVisibly (status : Status) : Text.EndsVisibly status.text :=
  Text.EndsVisibly.append ⟨')', by decide, by decide⟩ _

theorem statusText_endsVisibly (raw : Int32) : Text.EndsVisibly (statusText raw) := by
  unfold statusText
  split
  · exact Status.text_endsVisibly _
  · split
    · exact ⟨'D', by decide, by decide⟩
    · exact Text.EndsVisibly.append ⟨')', by decide, by decide⟩ _

/-- No blank is to be taken away behind the reason why a case cannot run. -/
theorem Precondition.obstacle?_endsVisibly {known : Option Precondition} {reason : String}
    (obstacle : obstacle? known = some reason) : Text.EndsVisibly reason := by
  unfold obstacle? at obstacle
  split at obstacle
  · cases obstacle
    exact ⟨'n', by decide, by decide⟩
  · split at obstacle
    · cases obstacle
    · cases obstacle
      exact (statusText_endsVisibly _).append _

/-! ### A report as lines -/

/-- The name of checks that tell why a case did not run. -/
def Check.preconditionName : String := "precondition"

/-- The line of a check.  Names stand in a column, up to that of a precondition. -/
def Check.progressLine (check : Check) : String :=
  let name :=
    if check.name = preconditionName then check.name else Text.column 28 check.name
  Text.withoutTrailingBlanks ("      " ++ name ++ " " ++ check.outcome.label ++ " " ++ check.detail)

/-- The lines of a case that is described as given. -/
def CaseReport.progressLines (description : String) (report : CaseReport) : List String :=
  Text.withoutTrailingBlanks ("    [" ++ report.id ++ "] " ++ description)
    :: report.checks.map Check.progressLine
    ++ ["      => " ++ report.verdict.label]

def SuiteReport.progressLines (descriptions : List String) (report : SuiteReport) : List String :=
  if report.skipped then ["  " ++ report.name ++ ": " ++ Verdict.skip.label]
  else
    ("  " ++ report.name)
      :: (List.zipWith CaseReport.progressLines descriptions report.cases).flatten

def ProtocolReport.progressLines (descriptions : List (List String)) (report : ProtocolReport) :
    List String :=
  ("\n" ++ report.name ++ " protocol (" ++ Text.hexByte report.protocol ++ ")")
    :: (List.zipWith SuiteReport.progressLines descriptions report.suites).flatten
    ++ ["  " ++ report.tally.text]

def Plan.descriptions (plan : Plan) : List (List String) :=
  plan.suites.map fun suite => suite.active.map (·.description)

theorem Check.progressLine_of_ne {check : Check} (other : check.name ≠ preconditionName) :
    check.progressLine = check.line := by
  simp only [progressLine, if_neg other, line]

theorem progressLine_obstacleCheck {case : Case} {context : Context} {reason : String}
    (obstacle : PlanRun.obstacle? case context = some reason) :
    (PlanRun.obstacleCheck reason).progressLine =
      "      precondition " ++ Verdict.skip.label ++ " " ++ reason := by
  have visible : Text.EndsVisibly reason := by
    unfold PlanRun.obstacle? at obstacle
    split at obstacle
    · exact Precondition.obstacle?_endsVisibly obstacle
    · cases obstacle
    · cases obstacle
  exact (visible.append _).withoutTrailingBlanks

/-! ### What a case says -/

namespace CaseRun

section

variable {σ : Type w} {respond : Responder σ} {α β : Type}

/-- What is said are the lines of the checks that are noted. -/
def Logs (respond : Responder σ) (run : CaseRun α) : Prop :=
  ∀ before state, Writes respond run before state fun lines _ after _ =>
    ∃ added, after.checks = before.checks ++ added ∧ lines = added.map Check.line

theorem logs_pure (value : α) : Logs respond (pure value) :=
  fun _ _ => ⟨[], (List.append_nil _).symm, rfl⟩

theorem Logs.bind {run : CaseRun α} {after : α → CaseRun β} (first : Logs respond run)
    (second : ∀ value, Logs respond (after value)) : Logs respond (run >>= after) := by
  intro before state
  rw [writes_bind]
  apply (first before state).mono
  rintro _ value middle between ⟨added, noted, rfl⟩
  apply (second value middle between).mono
  rintro _ _ final _ ⟨more, later, rfl⟩
  exact ⟨added ++ more, by rw [later, noted, List.append_assoc], (List.map_append).symm⟩

theorem logs_get : Logs respond (get : CaseRun CaseState) :=
  fun _ _ => ⟨[], (List.append_nil _).symm, rfl⟩

theorem logs_modify (change : CaseState → CaseState)
    (keeps : ∀ state, (change state).checks = state.checks) :
    Logs respond (modify change : CaseRun PUnit) :=
  fun before _ => ⟨[], by rw [keeps, List.append_nil], rfl⟩

theorem logs_takeToken : Logs respond takeToken :=
  fun _ _ => ⟨[], (List.append_nil _).symm, rfl⟩

theorem logs_ask (request : Request) : Logs respond (ask request) :=
  fun _ _ => ⟨[], (List.append_nil _).symm, rfl⟩

theorem logs_note (check : Check) : Logs respond (note check) :=
  fun _ _ => ⟨[check], rfl, rfl⟩

theorem logs_perform (effect : Effect) : Logs respond (perform effect) := by
  cases effect with
  | check check => exact logs_note check
  | decide suite mustRun => exact logs_modify _ fun _ => rfl
  | discover edit => exact logs_modify _ fun _ => rfl

theorem logs_send (case : Case) (message : UInt8) (parameters : List UInt32) :
    Logs respond (send case message parameters) := by
  apply logs_takeToken.bind
  intro token
  apply (logs_ask _).bind
  rintro (cause | response)
  · exact (logs_note _).bind fun _ => logs_pure none
  · exact (logs_modify (fun state => { state with lastStatus := some response.status })
      fun _ => rfl).bind fun _ => logs_pure (some response)

theorem logs_await (late : Late) : Logs respond (await late) := by
  apply (logs_ask _).bind
  rintro (cause | response)
  · exact (logs_note _).bind fun _ => logs_pure none
  · exact logs_pure (some response)

theorem logs_play (case : Case) (course : PlainCourse α) :
    Logs respond (playPlain case course) := by
  induction course with
  | done value => exact logs_pure value
  | perform effect next induction => exact (logs_perform effect).bind fun _ => induction
  | expect descriptors next induction =>
      exact (logs_modify (fun state => { state with expected := descriptors }) fun _ => rfl).bind
        fun _ => induction
  | view next induction => exact logs_get.bind fun _ => induction _
  | send message parameters next induction => exact (logs_send _ _ _).bind induction
  | await late next induction => exact (logs_await _).bind induction
  | checked command next induction => exact command.elim

theorem logs_perform? (case : Case) : Logs respond (perform? case) := by
  rw [perform?_eq_playPlain]
  exact logs_play case case.course

end

end CaseRun

/-! ### What a plan says -/

/-- What a case says between its first line and its last one: why it does not run, or its checks. -/
def PlanRun.bodyLines (obstacle : Option String) (checks : List Check) : List String :=
  match obstacle with
  | some reason => ["      precondition " ++ Verdict.skip.label ++ " " ++ reason]
  | none => checks.map Check.line

def Episode.lines (episode : Episode) : List String :=
  PlanRun.caseLine episode.case
    :: PlanRun.bodyLines (PlanRun.obstacle? episode.case episode.start.context)
      episode.report.checks
    ++ ["      => " ++ episode.report.verdict.label]

def Chapter.lines (chapter : Chapter) : List String :=
  if chapter.runs then ("  " ++ chapter.suite.name) :: chapter.episodes.flatMap Episode.lines
  else ["  " ++ chapter.suite.name ++ ": " ++ Verdict.skip.label]

namespace PlanRun

variable {σ : Type w} {respond : Responder σ} {plan : Plan} {carried : PlanState} {state : σ}

@[simp] theorem writes_say (line : String) (goal : List String → Unit → PlanState → σ → Prop) :
    Writes respond (say line) carried state goal ↔ goal [line] () carried state :=
  Iff.rfl

@[simp] theorem writes_update (change : Context → Context)
    (goal : List String → Unit → PlanState → σ → Prop) :
    Writes respond (update change) carried state goal ↔
      goal [] () { carried with context := change carried.context } state :=
  Iff.rfl

theorem writes_runBody (plan : Plan) (case : Case)
    (goal : List String → List Check × Option Int32 → PlanState → σ → Prop) :
    Writes respond (runBody plan case) carried state goal ↔
      Writes respond (CaseRun.perform? case) (startOf plan case carried) state
        fun lines _ finish last =>
          goal lines (finish.checks, finish.lastStatus)
            { token := finish.token, context := finish.context } last := by
  unfold Writes runBody
  simp only [prints_bind, prints_done, List.append_nil, startOf]

private theorem runCase_reported (case : Case) (carried : PlanState) (state : σ) :
    Writes respond (runCase plan case) carried state
      fun lines report _ _ =>
        lines = caseLine case :: bodyLines (obstacle? case carried.context) report.checks
          ++ ["      => " ++ report.verdict.label] := by
  simp only [runCase, runGuarded, writes_bind, writes_say, writes_get, writes_update, writes_pure,
    List.nil_append, List.append_nil]
  cases obstacle : obstacle? case carried.context with
  | some reason =>
      simp only [writes_bind, writes_say, writes_pure, List.append_nil]
      rfl
  | none =>
      simp only [writes_runBody]
      apply (CaseRun.logs_perform? case (startOf plan case carried) state).mono
      rintro _ _ finish _ ⟨added, noted, rfl⟩
      obtain rfl : finish.checks = added := noted
      rfl

theorem runCase_lines (case : Case) (carried : PlanState) (state : σ) :
    Writes respond (runCase plan case) carried state
      fun lines _ after last =>
        let episode := episode respond plan case carried state
        lines = episode.lines ∧ after = episode.after ∧
          last = Responder.after respond state episode.exchanges := by
  apply ((runCase_reported case carried state).and_carries
    ((runCase_episode case carried state).and (carries_after _ _ _))).mono
  rintro _ _ _ _ ⟨rfl, _, ⟨rfl, rfl, rfl⟩, rfl⟩
  exact ⟨rfl, rfl, rfl⟩

theorem runCases_lines (cases : List Case) (position : Nat) (carried : PlanState) (state : σ) :
    Writes respond (runCases plan cases position) carried state
      fun lines _ _ _ =>
        lines = (episodes respond plan cases position carried state).flatMap Episode.lines := by
  induction cases generalizing position carried state with
  | nil => rfl
  | cons case rest induction =>
      simp only [runCases, writes_bind, writes_update, writes_pure, List.nil_append,
        List.append_nil]
      apply (runCase_lines case _ state).mono
      rintro _ _ _ _ ⟨rfl, rfl, rfl⟩
      apply (induction _ _ _).mono
      rintro _ _ _ _ rfl
      rfl

theorem runSuite_lines (suite : Suite) (position : Nat) (carried : PlanState) (state : σ) :
    Writes respond (runSuite plan suite position) carried state
      fun lines _ after last =>
        let chapter := chapter respond plan suite position carried state
        lines = chapter.lines ∧ after = chapter.after ∧
          last = Responder.after respond state chapter.exchanges := by
  have said : Writes respond (runSuite plan suite position) carried state
      fun lines _ _ _ => lines = (chapter respond plan suite position carried state).lines := by
    simp only [runSuite, writes_bind, writes_update, writes_get, List.nil_append]
    cases runs : (carried.context.enterSuite position).mustRun position with
    | true =>
        simp only [if_true, writes_bind, writes_say, writes_update, writes_pure, List.append_nil]
        apply (runCases_lines suite.active 0 _ state).mono
        rintro _ _ _ _ rfl
        simp [Chapter.lines, chapter, runs]
    | false =>
        simp only [Bool.false_eq_true, if_false, writes_bind, writes_say, writes_update,
          writes_pure, List.append_nil]
        simp [Chapter.lines, chapter, runs]
  apply (said.and_carries
    ((runSuite_chapter suite position carried state).and (carries_after _ _ _))).mono
  rintro _ _ _ _ ⟨rfl, _, ⟨rfl, rfl, rfl⟩, rfl⟩
  exact ⟨rfl, rfl, rfl⟩

theorem runSuites_lines (suites : List Suite) (position : Nat) (carried : PlanState) (state : σ) :
    Writes respond (runSuites plan suites position) carried state
      fun lines _ _ _ =>
        lines = (chapters respond plan suites position carried state).flatMap Chapter.lines := by
  induction suites generalizing position carried state with
  | nil => rfl
  | cons suite rest induction =>
      simp only [runSuites, writes_bind, writes_pure, List.append_nil]
      apply (runSuite_lines suite position _ state).mono
      rintro _ _ _ _ ⟨rfl, rfl, rfl⟩
      apply (induction _ _ _).mono
      rintro _ _ _ _ rfl
      rfl

end PlanRun

/-! ### What is said is what is reported -/

/-- A case that ran has noted nothing under the name of preconditions. -/
def Episode.SparesPrecondition (episode : Episode) : Prop :=
  PlanRun.obstacle? episode.case episode.start.context = none →
    ∀ check ∈ episode.report.checks, check.name ≠ Check.preconditionName

theorem PlanRun.lines_episode {σ : Type w} {respond : Responder σ} {plan : Plan} {case : Case}
    {carried : PlanState} {state : σ}
    (spares : (episode respond plan case carried state).SparesPrecondition) :
    let episode := episode respond plan case carried state
    episode.lines = episode.report.progressLines case.description := by
  intro episode
  have body : bodyLines (obstacle? case carried.context) episode.report.checks =
      episode.report.checks.map Check.progressLine := by
    cases obstacle : obstacle? case carried.context with
    | some reason =>
        have checks : episode.report.checks = [obstacleCheck reason] := by
          simp [episode, PlanRun.episode, obstacle, Episode.report, Episode.finish, startOf,
            reportOf, CaseReport.finish]
        rw [checks, List.map_singleton, progressLine_obstacleCheck obstacle]
        rfl
    | none =>
        exact List.map_congr_left fun check member =>
          (Check.progressLine_of_ne (spares obstacle check member)).symm
  rw [CaseReport.progressLines, ← body]
  rfl

/-- A suite says what its report has, if its cases do. -/
theorem Chapter.lines_eq {chapter : Chapter}
    (cases : chapter.episodes.map (·.case) = if chapter.runs then chapter.suite.active else [])
    (each : ∀ episode ∈ chapter.episodes,
      episode.lines = episode.report.progressLines episode.case.description) :
    chapter.lines = chapter.report.progressLines (chapter.suite.active.map (·.description)) := by
  unfold Chapter.lines SuiteReport.progressLines
  rw [chapter.skipped_report, chapter.name_report]
  cases runs : chapter.runs with
  | false => rfl
  | true =>
      rw [runs, if_pos rfl] at cases
      have found : List.zipWith CaseReport.progressLines
          (chapter.suite.active.map (·.description)) chapter.report.cases =
          chapter.episodes.map Episode.lines := by
        rw [chapter.cases_report, runs, if_pos rfl, ← cases, List.map_map, List.zipWith_map,
          List.zipWith_self]
        exact (List.map_congr_left each).symm
      simp only [Bool.not_true, Bool.false_eq_true, if_true, if_false]
      rw [found, List.flatMap_def]

namespace Plan

variable {σ : Type w} (respond : Responder σ) (plan : Plan) (fixture : Option Fixture)
  (token : UInt16)
  (state : σ)

/-- A plan says its title, then what its suites say, and then its tally. -/
theorem prints_run (goal : List String → ProtocolReport × PlanState → σ → Prop) :
    (plan.runFrom fixture token).Prints respond state goal ↔
      Writes respond (PlanRun.runSuites plan plan.suites 0)
        { token, context := plan.context fixture } state
        fun lines suites finish =>
          let report := ProtocolReport.ofSuites plan.name plan.protocol suites
          goal (("\n" ++ plan.title) :: (lines ++ ["  " ++ report.tally.text]))
            (report, { finish with context := finish.context.finishProtocol }) := by
  simp only [Plan.runFrom, prints_say, prints_bind, prints_done, Writes]

theorem lines_run :
    let chronicle := plan.chronicle respond fixture token state
    (plan.runFrom fixture token).lines respond state =
      ("\n" ++ plan.title)
        :: (chronicle.flatMap Chapter.lines ++
          ["  " ++
            (ProtocolReport.ofSuites plan.name plan.protocol
              (chronicle.map Chapter.report)).tally.text]) := by
  intro chronicle
  refine (prints_iff _ _ { sink := .nowhere } fun lines _ _ => lines = _).mp ?_
  rw [prints_run]
  apply ((PlanRun.runSuites_lines plan.suites 0 _ state).and_carries
    (PlanRun.runSuites_chapters plan.suites 0 _ state)).mono
  rintro _ _ _ _ ⟨rfl, _, _, rfl⟩
  rfl

/-- The lines of a run are those of its report, if no case that ran has noted anything under the
name of preconditions. -/
theorem lines_run_eq
    (spares : ∀ chapter ∈ plan.chronicle respond fixture token state,
      ∀ episode ∈ chapter.episodes, episode.SparesPrecondition) (journal : Journal) :
    (plan.runFrom fixture token).lines respond state =
      ((plan.runFrom fixture token).run respond state journal).value.1.progressLines
        plan.descriptions := by
  have reported := ((leads_iff _ _ journal _).mp (plan.run_chronicle respond fixture token state)).2
  have chapters : ∀ chapter ∈ plan.chronicle respond fixture token state,
      chapter.lines =
        chapter.report.progressLines (chapter.suite.active.map (·.description)) := by
    intro chapter member
    refine Chapter.lines_eq (plan.cases_chronicle respond fixture token state chapter member) ?_
    intro episode inside
    have spared := spares chapter member episode inside
    obtain ⟨case, -, carried, between, rfl⟩ :=
      plan.exists_of_mem_chronicle respond fixture token state member inside
    exact PlanRun.lines_episode spared
  have zipped : List.zipWith SuiteReport.progressLines plan.descriptions
      ((plan.chronicle respond fixture token state).map Chapter.report) =
        (plan.chronicle respond fixture token state).map Chapter.lines := by
    rw [descriptions, ← plan.suites_chronicle respond fixture token state, List.map_map,
      List.zipWith_map, List.zipWith_self]
    exact (List.map_congr_left chapters).symm
  rw [lines_run, reported, ProtocolReport.progressLines, ProtocolReport.ofSuites_eq]
  dsimp only
  rw [zipped, List.flatMap_def, title]
  rfl

/-- A run comes to the same report and the same context and asks the same, wherever its lines go;
and the text that a journal captures is the report, case by case and check by check, together with
the descriptions of the cases.  It is enough that nothing else is noted under the name of
preconditions, which is seen from the plan already. -/
theorem progress_agrees_with_report :
    let dialogue := plan.runFrom fixture token
    let chronicle := plan.chronicle respond fixture token state
    let quiet := dialogue.run respond state { sink := .nowhere }
    (∀ journal,
      let told := dialogue.run respond.recording (state, []) journal
      told.value = quiet.value ∧
        told.state = (quiet.state, (dialogue.transcript respond state).map (·.1))) ∧
    (plan.Names (· ≠ Check.preconditionName) →
      ∀ chapter ∈ chronicle, ∀ episode ∈ chapter.episodes, episode.SparesPrecondition) ∧
    ((∀ chapter ∈ chronicle, ∀ episode ∈ chapter.episodes, episode.SparesPrecondition) →
      ∀ text,
        let captured := dialogue.run respond state { sink := .capture, text }
        captured.journal.text = text ++
          String.join
            ((captured.value.1.progressLines plan.descriptions).map (· ++ "\n"))) := by
  intro dialogue chronicle quiet
  refine ⟨?_, ?_, ?_⟩
  · intro journal told
    have same := dialogue.run_any_journal respond state journal { sink := .nowhere }
    have kept : told = _ := dialogue.run_recording respond state [] journal
    rw [kept]
    exact ⟨same.1, Prod.ext same.2 rfl⟩
  · intro names chapter member episode inside free
    exact names.chronicle (by decide) member inside free
  · intro spares text captured
    have kept : Sink.capture ≠ .nowhere := nofun
    rw [dialogue.journal_run, Journal.text_addAll _ _ kept,
      plan.lines_run_eq respond fixture token state spares { sink := .capture, text }]

/-- A case that defines a precondition, and one that depends on it. -/
def dependentPlan : Plan where
  protocol := 0x42
  name := "sample"
  suites :=
    [ .ofCases "basics"
      [ { id := "sample.version"
          protocol := 0x42
          message := 0
          description := "asks for the version"
          precondition := .define }
      , { id := "sample.reset", protocol := 0x42, message := 1, precondition := .use } ] ]

theorem dependentPlan_names (allowed : String → Prop) : dependentPlan.Names allowed where
  cases := by
    have plain : ∀ case ∈ dependentPlan.cases, case.hooks = {} ∧ case.descriptors = [] :=
      List.forall_mem_cons.mpr ⟨⟨rfl, rfl⟩, List.forall_mem_singleton.mpr ⟨rfl, rfl⟩⟩
    intro case member
    obtain ⟨hooks, table⟩ := plain case member
    refine .plain hooks ?_
    rw [table]
    exact List.forall_mem_nil _
  fillExpected _ _ := List.forall_mem_nil _

/-- Nobody answers, so that the first case fails and the second one cannot run. -/
theorem progress_agrees_with_report_of_silence :
    let silence : Responder Unit := fun state _ => (.error (.silence 100), state)
    dependentPlan.Names (· ≠ Check.preconditionName) ∧
      ((dependentPlan.runFrom none 0).run silence () { sink := .capture }).journal.text =
        "\nsample protocol (0x42)\n" ++
        "  basics\n" ++
        "    [sample.version] asks for the version\n" ++
        "      send                         FAILED no response within 100 ms\n" ++
        "      => NON CONFORMANT\n" ++
        "    [sample.reset]\n" ++
        "      precondition SKIPPED precondition not met: defining case was NON CONFORMANT " ++
        "with status UNSPECIFIED\n" ++
        "      => UNTESTED\n" ++
        "  tests: 2, failures: 1, errors: 0, skipped: 1\n" := by
  intro silence
  have names := dependentPlan_names (· ≠ Check.preconditionName)
  obtain ⟨-, seen, text⟩ := progress_agrees_with_report silence dependentPlan none 0 ()
  have captured := text (seen names) ""
  refine ⟨names, ?_⟩
  -- The report is computed instead of the journal, since the text is made from it.
  rw [captured]
  decide +kernel

end Plan

end PlatformAudit
