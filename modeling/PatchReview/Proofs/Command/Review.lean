import PatchReview.Proofs.Command.Arguments
import PatchReview.Proofs.Command.Run
import PatchReview.Proofs.Command.Source
import PatchReview.Proofs.Review

/-! Reviewing a diff.

Nothing but the reading of the diff depends on where it is from (`reviewDiff_eq_reviewOver`,
`reviewOver_withInput`).

A review is made ready and ends in one of two ways. With findings it prints the report, and its exit
code says whether one of them is severe enough, unless the report cannot be made or the output does
not take it (`result_of_emits`). Without findings it prints nothing; it has been refused, its diff
cannot be read, or something stops it that no one expects (`result_of_not_emits`). -/
namespace PatchReview.Command

open Text (IsWhole StandIns)

variable [StandIns]

/-! ### Reviewing what has been read -/

/-- A review of a diff that has been read, or could not be. -/
def reviewOver (s : Surroundings) (o : ReviewOptions) (diff : Outcome String) : Run Unit := do
  let settings ← settingsOf s ⟨levelOf o.logLevel, o.logJson⟩ o.repository o.settingsFile
  let log := loggingOf o settings.logging
  let format ← usable (formatOf o.format settings)
  let threshold ← usable (thresholdOf o.failOn)
  let review ← reviewOf s log settings o.reviewer
  let findings ← reporting s log do review.findings (← diff)
  print s (← needed (reportText s o.colour findings format))
  if fails threshold findings then throw .unsuccessful

theorem reviewDiff_eq_reviewOver {s : Surroundings} {o : ReviewOptions} {source : Source}
    (h : sourceOf s o.repository o.source = .ok source) :
    reviewDiff s o = reviewOver s o (source.read s.files) := by
  rw [reviewDiff, prepare, h]
  simp only [bind_assoc, pure_bind]
  rfl

/-- Surroundings with something else on standard input. -/
def Surroundings.withInput (s : Surroundings) (input : String) : Surroundings :=
  { s with input := input }

section
variable (s : Surroundings) (input : String)

theorem logged_withInput {α : Type} (log : LoggingSettings) (work : Logged α) :
    logged (s.withInput input) log work = logged s log work := rfl

theorem blaming_withInput {α : Type} (log : LoggingSettings) (part : SettingsPart)
    (work : Logged α) :
    blaming (s.withInput input) log part work = blaming s log part work := by
  rw [blaming, blaming, logged_withInput]

theorem reporting_withInput {α : Type} (log : LoggingSettings) (work : Logged α) :
    reporting (s.withInput input) log work = reporting s log work := by
  rw [reporting, reporting, logged_withInput]
  rfl

theorem print_withInput (text : String) : print (s.withInput input) text = print s text := rfl

theorem reportText_withInput (colour : Bool) (findings : List Finding) (format : ReportFormat) :
    reportText (s.withInput input) colour findings format = reportText s colour findings format := by
  cases format <;> rfl

theorem settingsOf_withInput (log : LoggingSettings) (repository : Path) (asked : Option Path) :
    settingsOf (s.withInput input) log repository asked = settingsOf s log repository asked := by
  unfold settingsOf
  rw [blaming_withInput, Surroundings.withInput]

theorem reviewOf_withInput (log : LoggingSettings) (settings : Settings) (name : Option String) :
    reviewOf (s.withInput input) log settings name = reviewOf s log settings name := by
  unfold reviewOf
  rw [blaming_withInput, Surroundings.withInput]

theorem reviewOver_withInput (o : ReviewOptions) (source : SourceOptions) (diff : Outcome String) :
    reviewOver (s.withInput input) { o with source := source } diff = reviewOver s o diff := by
  have hlog (l : LoggingSettings) : loggingOf { o with source := source } l = loggingOf o l := by
    unfold loggingOf
    rfl
  simp only [reviewOver, settingsOf_withInput, reviewOf_withInput, reporting_withInput, hlog,
    print_withInput, reportText_withInput]

end

/-! ### How a review ends -/

/-- What there is when a command starts. -/
def Surroundings.start (s : Surroundings) : Progress := ⟨"", "", s.files⟩

/-- A review emits some findings, in some format. -/
inductive Emits (s : Surroundings) (o : ReviewOptions) : ReportFormat → List Finding → Prop where
  | mk {ready : Prepared} {p : Progress} {diff : String} {findings : List Finding}
      {journal : Journal} (hready : runFrom (prepare s o) s.start = (.ok ready, p))
      (hdiff : ready.source.read s.files = .ok diff)
      (hfindings : (ready.review.findings diff).result = (.ok findings, journal)) :
      Emits s o ready.format findings

/-- Whether a finding that was emitted is as severe as asked for, or more. -/
def IsAlarming (o : ReviewOptions) (findings : List Finding) : Prop :=
  ∃ name ∈ o.failOn, ∃ f ∈ findings, severityRank name ≤ severityRank f.severity

/-- The diff of a review cannot be read, for a reason that is said. -/
inductive Unread (s : Surroundings) (o : ReviewOptions) : Failure → Prop where
  | mk {ready : Prepared} {p : Progress} {e : Failure}
      (hready : runFrom (prepare s o) s.start = (.ok ready, p))
      (h : ready.source.read s.files = .error e) (he : IsReported e) : Unread s o e

/-- What a review does not expect. -/
inductive Escapes (s : Surroundings) (o : ReviewOptions) : Failure → Prop where
  /-- The settings cannot be read, but it is not they that are wrong. -/
  | settings {e : Failure} {journal : Journal}
      (h : (Settings.load s.environment s.files o.repository o.settingsFile).result =
        (.error e, journal))
      (he : ∀ cause, e ≠ .settings cause) : Escapes s o e
  /-- The rules cannot be read, but it is not they that are wrong. -/
  | rules {settings : Settings} {reviewer : Reviewer} {e : Failure} {journal journal' : Journal}
      (hsettings : (Settings.load s.environment s.files o.repository o.settingsFile).result =
        (.ok settings, journal))
      (h : (Review.ofSettings s.files settings reviewer).result = (.error e, journal'))
      (he : ∀ cause, e ≠ .settings cause) : Escapes s o e
  /-- Git is asked for the diff and cannot be run. -/
  | git {e : Failure} (hfile : o.source.diffFile = none) (hinput : o.source.fromInput = false)
      (h : s.git.diff o.repository o.source.base o.source.head = .error e) : Escapes s o e
  /-- The diff cannot be read, for a reason that is not said. -/
  | source {ready : Prepared} {p : Progress} {e : Failure}
      (hready : runFrom (prepare s o) s.start = (.ok ready, p))
      (h : ready.source.read s.files = .error e) (he : ¬IsReported e) : Escapes s o e
  /-- There is an obstacle to the review of the diff. -/
  | review {ready : Prepared} {p : Progress} {diff : String} {e : Failure}
      (hready : runFrom (prepare s o) s.start = (.ok ready, p))
      (hdiff : ready.source.read s.files = .ok diff) (h : Review.Obstacle ready.review diff e) :
      Escapes s o e

omit [StandIns] in
theorem blame_eq_usage_or (part : SettingsPart) (e : Failure) :
    (∃ cause, blame part e = .usage cause) ∨
      blame part e = .failure e ∧ ∀ cause, e ≠ .settings cause := by
  unfold blame
  split
  · exact .inl ⟨_, rfl⟩
  · rename_i hother
    exact .inr ⟨rfl, hother⟩

theorem exists_choose_eq_find (r : Registry) (name : Option String) (configured : String) :
    ∃ asked, r.choose none name configured = r.find asked := ⟨_, rfl⟩

theorem choose_builtIn {name : Option String} {configured : String} {reviewer : Reviewer}
    (h : Registry.builtIn.choose none name configured = .ok reviewer) :
    reviewer = .builtIn none := by
  obtain ⟨asked, hasked⟩ := exists_choose_eq_find Registry.builtIn name configured
  rw [hasked, Registry.find] at h
  cases hget : Keyed.get? (Registry.nameOf asked) Registry.builtIn with
  | none =>
    rw [hget] at h
    exact absurd h (by simp)
  | some found =>
    rw [hget] at h
    have hmem := Keyed.mem_of_get? hget
    rw [Registry.builtIn, Registry.register, Keyed.put, Keyed.alter, List.mem_singleton] at hmem
    obtain rfl := Except.ok.inj h
    exact (Prod.mk.inj hmem).2

omit [StandIns] in
theorem thresholdOf_eq_ok {failOn : Option String} {threshold : Option Nat}
    (h : thresholdOf failOn = .ok threshold) : threshold = failOn.map severityRank := by
  cases failOn with
  | none => exact (Except.ok.inj h).symm
  | some name =>
    rw [thresholdOf] at h
    split at h
    · exact (Except.ok.inj h).symm
    · exact absurd h (by simp)

theorem ofSettings_eq_ok {files : Files} {settings : Settings} {reviewer : Reviewer}
    {review : Review} {journal : Journal}
    (h : (Review.ofSettings files settings reviewer).result = (.ok review, journal)) :
    review.reviewer = reviewer := by
  rw [Logged.result_eq_run, Review.ofSettings] at h
  obtain ⟨rules, mid, -, h⟩ := Logged.run_bind_eq_ok_iff.1 h
  obtain rfl := Except.ok.inj (Prod.mk.inj h).1
  rfl

/-- Making ready leads to something that goes with the options, or to a stop. -/
theorem prepare_cases (s : Surroundings) (o : ReviewOptions) (p : Progress) :
    (∃ ready p', runFrom (prepare s o) p = (.ok ready, p') ∧
      ready.threshold = o.failOn.map severityRank ∧ ready.review.reviewer = .builtIn none) ∨
    (∃ e p', runFrom (prepare s o) p = (.error (.usage e), p')) ∨
    ∃ e p', runFrom (prepare s o) p = (.error (.failure e), p') ∧ Escapes s o e := by
  rw [prepare, runFrom_bind, settingsOf, runFrom_blaming]
  rcases hload : (Settings.load s.environment s.files o.repository o.settingsFile).result with
    ⟨e | settings, journal⟩
  · right
    rcases blame_eq_usage_or .whole e with ⟨cause, hcause⟩ | ⟨hfailure, he⟩
    · exact .inl ⟨cause, _, by simp only [Outcome.mapError_error, hcause]; rfl⟩
    · exact .inr ⟨e, _, by simp only [Outcome.mapError_error, hfailure]; rfl, .settings hload he⟩
  simp only [Outcome.mapError_ok]
  rw [runFrom_bind, runFrom_usable]
  cases formatOf o.format settings with
  | error e => exact .inr (.inl ⟨e, _, rfl⟩)
  | ok format =>
  simp only [Outcome.mapError_ok]
  rw [runFrom_bind, runFrom_usable]
  cases hthreshold : thresholdOf o.failOn with
  | error e => exact .inr (.inl ⟨e, _, rfl⟩)
  | ok threshold =>
  simp only [Outcome.mapError_ok]
  rw [runFrom_bind, reviewOf, runFrom_blaming]
  cases hchosen : Registry.builtIn.choose none o.reviewer settings.reviewer with
  | error e => exact .inr (.inl ⟨_, _, rfl⟩)
  | ok reviewer =>
  simp only []
  rcases hreview : (Review.ofSettings s.files settings reviewer).result with
    ⟨e | review, journal'⟩
  · right
    rcases blame_eq_usage_or .whole e with ⟨cause, hcause⟩ | ⟨hfailure, he⟩
    · exact .inl ⟨cause, _, by simp only [Outcome.mapError_error, hcause]; rfl⟩
    · exact .inr ⟨e, _, by simp only [Outcome.mapError_error, hfailure]; rfl, .rules hload hreview he⟩
  simp only [Outcome.mapError_ok]
  rw [runFrom_bind, runFrom_liftM]
  cases hsource : sourceOf s o.repository o.source with
  | error stop =>
    right
    rcases sourceOf_eq_error hsource with ⟨e, rfl⟩ | ⟨e, rfl, hfile, hinput, hgit⟩
    · exact .inl ⟨e, _, rfl⟩
    · exact .inr ⟨e, _, rfl, .git hfile hinput hgit⟩
  | ok source =>
  refine .inl ⟨_, _, rfl, thresholdOf_eq_ok hthreshold, ?_⟩
  exact (ofSettings_eq_ok hreview).trans (choose_builtIn hchosen)

theorem isQuiet_prepare (s : Surroundings) (o : ReviewOptions) : IsQuiet (prepare s o) := by
  refine (isQuiet_blaming s _ _ _).bind fun settings => (isQuiet_usable _).bind fun format => ?_
  refine (isQuiet_usable _).bind fun threshold => (isQuiet_blaming s _ _ _).bind fun review => ?_
  exact (isQuiet_liftM _).bind fun source => isQuiet_pure _

theorem resultOf_of_ok {s : Surroundings} {c : Command} {p : Progress}
    (h : runFrom (run s c) s.start = (.ok (), p)) : resultOf s c = ⟨none, p⟩ := by
  have hrun : StateT.run (ExceptT.run (run s c)) ⟨"", "", s.files⟩ = (.ok (), p) := h
  rw [resultOf, hrun]

theorem resultOf_of_error {s : Surroundings} {c : Command} {stop : Stop} {p : Progress}
    (h : runFrom (run s c) s.start = (.error stop, p)) : resultOf s c = ⟨some stop, p⟩ := by
  have hrun : StateT.run (ExceptT.run (run s c)) ⟨"", "", s.files⟩ = (.error stop, p) := h
  rw [resultOf, hrun]

/-- The end of a review: the report is printed, and fails if the findings do. -/
def printReport (s : Surroundings) (report : Outcome String) (fails : Bool) : Run Unit := do
  print s (← needed report)
  if fails then throw .unsuccessful

theorem runFrom_printReport (s : Surroundings) (report : Outcome String) (fails : Bool)
    (p : Progress) :
    runFrom (printReport s report fails) p =
      match report >>= printable s with
      | .ok line =>
        (if fails then .error .unsuccessful else .ok (), { p with output := p.output ++ line })
      | .error e => (.error (.failure e), p) := by
  rw [printReport, runFrom_bind, runFrom_needed]
  cases report with
  | error e => rfl
  | ok text =>
    simp only [Outcome.mapError_ok]
    rw [runFrom_bind, runFrom_print]
    show _ = match printable s text with
      | .ok line => _
      | .error e => _
    cases printable s text with
    | error e => rfl
    | ok line => cases fails <;> rfl

omit [StandIns] in
theorem fails_iff {o : ReviewOptions} {findings : List Finding} :
    fails (o.failOn.map severityRank) findings = true ↔ IsAlarming o findings := by
  rw [IsAlarming]
  cases o.failOn with
  | none => simp [fails]
  | some name =>
    show (findings.any fun f => decide (severityRank name ≤ severityRank f.severity)) = true ↔ _
    simp [List.any_eq_true]

theorem result_reading_of_ok {ready : Prepared} {files : Files} {diff : String}
    (h : ready.source.read files = .ok diff) :
    ((do ready.review.findings (← ready.source.read files)) : Logged _).result =
      (ready.review.findings diff).result := by
  rw [Logged.result_eq_run, Logged.run_bind, Logged.run_liftM, h]
  rfl

/-- A diff that cannot be read has no findings, and nothing is noted about it. -/
theorem result_reading_of_error {ready : Prepared} {files : Files} {e : Failure}
    (h : ready.source.read files = .error e) :
    ((do ready.review.findings (← ready.source.read files)) : Logged _).result =
      (.error e, []) := by
  rw [Logged.result_eq_run, Logged.run_bind, Logged.run_liftM, h]

section
variable {s : Surroundings} {o : ReviewOptions} {ready : Prepared} {p : Progress}
  (hready : runFrom (prepare s o) s.start = (.ok ready, p))
include hready

theorem output_of_prepare : p.output = "" := by
  have h := isQuiet_prepare s o s.start
  rw [hready] at h
  exact h

theorem threshold_of_prepare :
    ready.threshold = o.failOn.map severityRank ∧ ready.review.reviewer = .builtIn none := by
  rcases prepare_cases s o s.start with
    ⟨ready', p', h, hthreshold, hreviewer⟩ | ⟨e, p', h⟩ | ⟨e, p', h, -⟩
  · rw [hready] at h
    obtain rfl := Except.ok.inj (Prod.mk.inj h).1
    exact ⟨hthreshold, hreviewer⟩
  · rw [hready] at h
    exact absurd (Prod.mk.inj h).1 (by simp)
  · rw [hready] at h
    exact absurd (Prod.mk.inj h).1 (by simp)

theorem runFrom_reviewDiff :
    runFrom (reviewDiff s o) s.start =
      runFrom (reporting s ready.log (do ready.review.findings (← ready.source.read s.files)) >>=
        fun findings => printReport s (reportText s o.colour findings ready.format)
          (fails ready.threshold findings)) p := by
  rw [reviewDiff, runFrom_bind, hready]
  rfl

theorem runFrom_reviewDiff_of_findings {diff : String} {findings : List Finding}
    {journal : Journal} (hdiff : ready.source.read s.files = .ok diff)
    (hfindings : (ready.review.findings diff).result = (.ok findings, journal)) :
    runFrom (reviewDiff s o) s.start =
      runFrom (printReport s (reportText s o.colour findings ready.format)
        (fails (o.failOn.map severityRank) findings)) (p.noting s ready.log journal) := by
  have hwork := (result_reading_of_ok hdiff).trans hfindings
  rw [runFrom_reviewDiff hready, runFrom_bind, runFrom_reporting_of_ok hwork,
    (threshold_of_prepare hready).1]

/-- A review with findings prints the report, if the output takes it, and fails if they are
alarming. -/
theorem result_of_printable {diff line : String} {findings : List Finding} {journal : Journal}
    (hdiff : ready.source.read s.files = .ok diff)
    (hfindings : (ready.review.findings diff).result = (.ok findings, journal))
    (hline : (reportText s o.colour findings ready.format >>= printable s) = .ok line) :
    (resultOf s (.review o)).progress.output = line ∧
      (resultOf s (.review o)).status =
        if fails (o.failOn.map severityRank) findings then 1 else 0 := by
  have hrun := runFrom_reviewDiff_of_findings hready hdiff hfindings
  rw [runFrom_printReport, hline] at hrun
  simp only [Progress.output_noting, output_of_prepare hready, String.empty_append] at hrun
  cases hfails : fails (o.failOn.map severityRank) findings with
  | true =>
    rw [hfails, if_pos rfl] at hrun
    rw [resultOf_of_error (c := .review o) hrun]
    exact ⟨rfl, rfl⟩
  | false =>
    rw [hfails, if_neg Bool.false_ne_true] at hrun
    rw [resultOf_of_ok (c := .review o) hrun]
    exact ⟨rfl, rfl⟩

/-- A review whose report cannot be printed prints nothing and stops. -/
theorem result_of_not_printable {diff : String} {findings : List Finding} {journal : Journal}
    {e : Failure} (hdiff : ready.source.read s.files = .ok diff)
    (hfindings : (ready.review.findings diff).result = (.ok findings, journal))
    (he : (reportText s o.colour findings ready.format >>= printable s) = .error e) :
    (resultOf s (.review o)).progress.output = "" ∧
      (resultOf s (.review o)).stop = some (.failure e) ∧
      (resultOf s (.review o)).status = 1 := by
  have hrun := runFrom_reviewDiff_of_findings hready hdiff hfindings
  rw [runFrom_printReport, he] at hrun
  have houtput := output_of_prepare hready
  rw [resultOf_of_error (c := .review o) hrun]
  exact ⟨houtput, rfl, rfl⟩

/-- A review without findings says why, if it is to, and prints nothing. -/
theorem result_of_failure {e : Failure} {journal : Journal}
    (hwork : ((do ready.review.findings (← ready.source.read s.files)) : Logged _).result =
      (.error e, journal)) :
    (resultOf s (.review o)).progress.output = "" ∧
      (IsReported e → (resultOf s (.review o)).status = 1 ∧
        ∃ before, (resultOf s (.review o)).progress.errors =
          before ++ complaint s [shown s ("Error: " ++ e.message)]) ∧
      (¬IsReported e → (resultOf s (.review o)).stop = some (.failure e) ∧
        (resultOf s (.review o)).status = 1) := by
  have houtput := output_of_prepare hready
  have hrun := runFrom_reviewDiff hready
  rw [runFrom_bind] at hrun
  by_cases he : IsReported e
  · rw [runFrom_reporting_of_isReported hwork he] at hrun
    rw [resultOf_of_error (c := .review o) hrun]
    exact ⟨houtput, fun _ => ⟨rfl, _, rfl⟩, fun h => absurd he h⟩
  · rw [runFrom_reporting_of_not_isReported hwork he] at hrun
    rw [resultOf_of_error (c := .review o) hrun]
    exact ⟨houtput, fun h => absurd h he, fun _ => ⟨rfl, rfl⟩⟩

end

omit [StandIns] in
theorem not_isReported_patternFailure (fault : Pattern.Fault) :
    ¬IsReported (Diff.patternFailure fault) := by
  unfold Diff.patternFailure
  split <;> exact id

/-- What stops the built-in reviewer is not said. -/
theorem not_isReported_of_obstacle {review : Review} {diff : String} {e : Failure}
    (h : Review.Obstacle review diff e) : ¬IsReported e := by
  cases h with
  | pattern hp hfault => exact not_isReported_patternFailure _
  | start h => exact id
  | half h => exact id
  | number _ _ _ => exact id
  | crossed _ _ _ _ _ => exact id

/-- A stop before the review is the end, and nothing is printed before it. -/
theorem resultOf_of_prepare_error {s : Surroundings} {o : ReviewOptions} {stop : Stop}
    {p : Progress} (h : runFrom (prepare s o) s.start = (.error stop, p)) :
    resultOf s (.review o) = ⟨some stop, p⟩ ∧ p.output = "" := by
  have houtput := isQuiet_prepare s o s.start
  rw [h] at houtput
  refine ⟨resultOf_of_error ?_, houtput⟩
  show runFrom (reviewDiff s o) s.start = _
  rw [reviewDiff, runFrom_bind, h]

/-- A review that emits no findings prints nothing. Either it is refused, or the diff cannot be
read, which is said, or something escapes that no one expects. -/
theorem result_of_not_emits {s : Surroundings} {o : ReviewOptions}
    (hnone : ∀ format findings, ¬Emits s o format findings) :
    (resultOf s (.review o)).progress.output = "" ∧
      ((∃ e, (resultOf s (.review o)).stop = some (.usage e) ∧
          (resultOf s (.review o)).status = 2) ∨
        (∃ e, Unread s o e ∧ (resultOf s (.review o)).status = 1 ∧
          ∃ before, (resultOf s (.review o)).progress.errors =
            before ++ complaint s [shown s ("Error: " ++ e.message)]) ∨
        ∃ e, Escapes s o e ∧ (resultOf s (.review o)).stop = some (.failure e) ∧
          (resultOf s (.review o)).status = 1) := by
  rcases prepare_cases s o s.start with
    ⟨ready, p, hready, hthreshold, hreviewer⟩ | ⟨e, p, h⟩ | ⟨e, p, h, hescapes⟩
  · cases hread : ready.source.read s.files with
    | error e =>
      have hwork := result_reading_of_error hread
      obtain ⟨houtput, hreported, hescaped⟩ := result_of_failure hready hwork
      refine ⟨houtput, .inr ?_⟩
      by_cases he : IsReported e
      · exact .inl ⟨e, .mk hready hread he, hreported he⟩
      · exact .inr ⟨e, .source hready hread he, hescaped he⟩
    | ok diff =>
      rcases hfindings : (ready.review.findings diff).result with ⟨e | findings, journal⟩
      · have hwork := (result_reading_of_ok hread).trans hfindings
        have hobstacle := Review.obstacle_of_findings hreviewer
          (fun _ h => absurd h (Option.not_mem_none _)) hfindings
        obtain ⟨houtput, -, hescaped⟩ := result_of_failure hready hwork
        refine ⟨houtput, .inr (.inr ⟨e, .review hready hread hobstacle, ?_⟩)⟩
        exact hescaped (not_isReported_of_obstacle hobstacle)
      · exact absurd (.mk hready hread hfindings) (hnone ready.format findings)
  · obtain ⟨hresult, houtput⟩ := resultOf_of_prepare_error h
    rw [hresult]
    exact ⟨houtput, .inl ⟨e, rfl, rfl⟩⟩
  · obtain ⟨hresult, houtput⟩ := resultOf_of_prepare_error h
    rw [hresult]
    exact ⟨houtput, .inr (.inr ⟨e, hescapes, rfl, rfl⟩)⟩

omit [StandIns] in
/-- A name that no severity has ranks as the least severe one. -/
theorem severityRank_of_notMem {name : String} (h : Text.lower name ∉ severities) :
    severityRank name = severityRank "info" := by
  rw [severityRank, List.idxOf?_eq_none_iff.2 h]
  decide

/-! ### From the command line -/

/-- A diff on standard input is reviewed like the same diff in a file. -/
theorem resultOf_input_eq_resultOf_file {s : Surroundings} {diff other : String} {path : Path}
    (hdiff : IsWhole diff.toList) (hfile : s.files.bytes path = .ok (Text.Utf8.encode diff.toList))
    (o : ReviewOptions) :
    resultOf (s.withInput diff) (.review { o with source := ⟨none, true, none, none⟩ }) =
      resultOf (s.withInput other) (.review { o with source := ⟨some path, false, none, none⟩ }) := by
  have hrun : run (s.withInput diff) (.review { o with source := ⟨none, true, none, none⟩ }) =
      run (s.withInput other) (.review { o with source := ⟨some path, false, none, none⟩ }) := by
    have hinput (repository : Path) :
        sourceOf (s.withInput diff) repository ⟨none, true, none, none⟩ =
          .ok (.spooled (inputText (s.withInput diff))) := rfl
    have hpath (repository : Path) :
        sourceOf (s.withInput other) repository ⟨some path, false, none, none⟩ =
          .ok (.file path) := rfl
    rw [run, run, reviewDiff_eq_reviewOver (hinput _), reviewDiff_eq_reviewOver (hpath _)]
    rw [reviewOver_withInput, reviewOver_withInput]
    exact congrArg (reviewOver s o)
      (spool_inputText_eq_readDiff (s := s.withInput diff) hdiff hfile)
  rw [resultOf, resultOf, hrun]
  rfl

/-- The same from the command line, whatever else the arguments say. -/
theorem resultOfArguments_input_eq_resultOfArguments_file {s : Surroundings}
    {diff other path : String} {rest : List String}
    (hdiff : Text.Utf8.encodeError? diff.toList = none)
    (hfile : s.files.bytes (.ofText path) = .ok (Text.Utf8.encode diff.toList))
    (hrest : LeaveSource rest) :
    resultOfArguments { s with input := diff } ("review" :: "--stdin" :: rest) =
      resultOfArguments { s with input := other } ("review" :: "--diff-file" :: path :: rest) := by
  have hwhole := (Text.encodeError?_eq_none_iff _).1 hdiff
  rw [resultOfArguments, resultOfArguments, ofArguments_stdin hrest,
    ofArguments_diffFile hrest (Files.pathFault?_of_bytes hfile)]
  rcases ofOptions_cases reviewForms rest with ⟨e, he⟩ | ⟨choices, hhelp⟩ | ⟨read, hread, hmade⟩
  · rw [he, he]
  · rw [hhelp, hhelp]
    rfl
  · have hkeys : ∀ e ∈ read.options, e.1 ∉ sourceKeys := by
      intro e he
      rcases mem_options_of_readArguments hread he with hmem | ⟨form, hform, hkey⟩
      · exact absurd hmem List.not_mem_nil
      · exact hkey ▸ hrest form hform
    rw [hmade, hmade, reviewIn_stdin hkeys, reviewIn_diffFile hkeys]
    exact resultOf_input_eq_resultOf_file hwhole hfile _

/-- A review that emits findings prints the report on them and ends with 1 if one of them is as
severe as asked for, else with 0. If the report cannot be made, or the output does not take it,
nothing is printed, and that escapes with 1. -/
theorem result_of_emits {s : Surroundings} {o : ReviewOptions} {format : ReportFormat}
    {findings : List Finding} (h : Emits s o format findings) :
    (∀ text, reportText s o.colour findings format = .ok text → s.streams.Take (shown s text) →
        (resultOf s (.review o)).progress.output = shown s text ∧
        (IsAlarming o findings → (resultOf s (.review o)).status = 1) ∧
        (¬IsAlarming o findings → (resultOf s (.review o)).status = 0)) ∧
    (∀ text, reportText s o.colour findings format = .ok text → ¬s.streams.Take (shown s text) →
        (resultOf s (.review o)).progress.output = "" ∧
        (∃ cause, (resultOf s (.review o)).stop = some (.failure (.notEncodable cause))) ∧
        (resultOf s (.review o)).status = 1) ∧
    (∀ e, reportText s o.colour findings format = .error e →
        (resultOf s (.review o)).progress.output = "" ∧
        (resultOf s (.review o)).stop = some (.failure e) ∧
        (resultOf s (.review o)).status = 1) := by
  obtain ⟨hready, hread, hfindings⟩ := h
  refine ⟨fun text htext htake => ?_, fun text htext htake => ?_, fun e he => ?_⟩
  · obtain ⟨houtput, hstatus⟩ := result_of_printable hready hread hfindings
      (by rw [htext]; exact printable_of_take htake)
    refine ⟨houtput, fun halarming => ?_, fun hcalm => ?_⟩
    · rw [hstatus, if_pos (fails_iff.2 halarming)]
    · rw [hstatus, if_neg (mt fails_iff.1 hcalm)]
  · obtain ⟨cause, hcause⟩ := printable_of_not_take htake
    obtain ⟨houtput, hstop, hstatus⟩ := result_of_not_printable hready hread hfindings
      (by rw [htext]; exact hcause)
    exact ⟨houtput, ⟨cause, hstop⟩, hstatus⟩
  · exact result_of_not_printable hready hread hfindings (by rw [he]; rfl)

/-- What comes of a review of standard input is what comes of a review of a file with the same text,
whatever else the arguments say. A review that emits findings prints the report on them, if that can
be made and the output takes it, and ends with 1 if one of them is as severe as asked for, else with
0; a name that is no severity stands for the least. Otherwise it prints nothing: it is refused with
2, or says with 1 that there is no diff, or something escapes with 1 that no one expects. -/
theorem inputs_agree_and_exit (s : Surroundings) (diff other path : String) (rest : List String)
    (hdiff : Text.Utf8.encodeError? diff.toList = none)
    (hfile : s.files.bytes (.ofText path) = .ok (Text.Utf8.encode diff.toList))
    (hrest : LeaveSource rest) :
    resultOfArguments { s with input := diff } ("review" :: "--stdin" :: rest) =
      resultOfArguments { s with input := other } ("review" :: "--diff-file" :: path :: rest) ∧
    (∀ (t : Surroundings) (o : ReviewOptions) (format : ReportFormat) (findings : List Finding),
      Emits t o format findings →
        (∀ text, reportText t o.colour findings format = .ok text → t.streams.Take (shown t text) →
          (resultOf t (.review o)).progress.output = shown t text ∧
          (IsAlarming o findings → (resultOf t (.review o)).status = 1) ∧
          (¬IsAlarming o findings → (resultOf t (.review o)).status = 0)) ∧
        (∀ text, reportText t o.colour findings format = .ok text → ¬t.streams.Take (shown t text) →
          (resultOf t (.review o)).progress.output = "" ∧
          (∃ cause, (resultOf t (.review o)).stop = some (.failure (.notEncodable cause))) ∧
          (resultOf t (.review o)).status = 1) ∧
        (∀ e, reportText t o.colour findings format = .error e →
          (resultOf t (.review o)).progress.output = "" ∧
          (resultOf t (.review o)).stop = some (.failure e) ∧
          (resultOf t (.review o)).status = 1)) ∧
    (∀ (t : Surroundings) (o : ReviewOptions), (∀ format findings, ¬Emits t o format findings) →
      (resultOf t (.review o)).progress.output = "" ∧
        ((∃ e, (resultOf t (.review o)).stop = some (.usage e) ∧
            (resultOf t (.review o)).status = 2) ∨
          (∃ e, Unread t o e ∧ (resultOf t (.review o)).status = 1 ∧
            ∃ before, (resultOf t (.review o)).progress.errors =
              before ++ complaint t [shown t ("Error: " ++ e.message)]) ∨
          ∃ e, Escapes t o e ∧ (resultOf t (.review o)).stop = some (.failure e) ∧
            (resultOf t (.review o)).status = 1)) ∧
    ∀ name, Text.lower name ∉ severities → severityRank name = severityRank "info" := by
  refine ⟨resultOfArguments_input_eq_resultOfArguments_file hdiff hfile hrest, ?_, ?_, ?_⟩
  · intro t o format findings hemits
    exact result_of_emits hemits
  · intro t o hnone
    exact result_of_not_emits hnone
  · intro name hname
    exact severityRank_of_notMem hname

omit [StandIns] in
/-- A diff whose lines end in three ways, with a name that is not plain ASCII, in the one file that
there is. The output is UTF-8 and there is no git. -/
theorem inputs_agree_and_exit_mixed_ends :
    letI : StandIns := ⟨.besides []⟩
    let diff := "diff --git a/é b/é\r\n+++ b/é\r@@ -0,0 +1 @@\n+a"
    let s : Surroundings :=
      ⟨[], ⟨[], [(["d"], .file (Text.Utf8.encode diff.toList))]⟩, "", "", "", false, .utf8, .absent⟩
    Text.Utf8.encodeError? diff.toList = none ∧
      s.files.bytes (.ofText "d") = .ok (Text.Utf8.encode diff.toList) ∧
      LeaveSource ["--fail-on", "minor"] ∧
      resultOfArguments { s with input := diff } ["review", "--stdin", "--fail-on", "minor"] =
        resultOfArguments { s with input := "" }
          ["review", "--diff-file", "d", "--fail-on", "minor"] := by
  let _ : StandIns := ⟨.besides []⟩
  intro diff s
  have hdiff : Text.Utf8.encodeError? diff.toList = none :=
    (Text.encodeError?_eq_none_iff _).2 (Text.isWhole_of_isAssigned (by decide))
  have hfile : s.files.bytes (.ofText "d") = .ok (Text.Utf8.encode diff.toList) := by decide
  have hrest : LeaveSource ["--fail-on", "minor"] := by
    rw [LeaveSource]
    decide
  exact ⟨hdiff, hfile, hrest, (inputs_agree_and_exit s _ "" "d" _ hdiff hfile hrest).1⟩

end PatchReview.Command
