import PatchReview.Command.Result
import PatchReview.Proofs.Text.Encoding

/-! Carrying out a command part by part.

`runFrom` is what some work comes to behind what has been printed already. What follows a part is
carried out behind what the part has printed, if the part has a result, and otherwise not at all
(`runFrom_bind`). Much of the work prints nothing (`IsQuiet`); its journal goes into the error
output. -/
namespace PatchReview.Command

variable {α β : Type}

/-- What some work comes to behind some progress, and the progress then. -/
def runFrom (work : Run α) (p : Progress) : Except Stop α × Progress :=
  StateT.run (ExceptT.run work) p

theorem runFrom_bind (work : Run α) (next : α → Run β) (p : Progress) :
    runFrom (work >>= next) p =
      match runFrom work p with
      | (.ok a, p') => runFrom (next a) p'
      | (.error stop, p') => (.error stop, p') := by
  unfold runFrom ExceptT.run StateT.run
  simp only [bind, ExceptT.bind, ExceptT.mk, ExceptT.bindCont, StateT.bind]
  obtain ⟨result, p'⟩ : Except Stop α × Progress := work p
  cases result <;> rfl

/-! ### Work that prints nothing -/

/-- Whether some work prints nothing, whatever it comes to. -/
def IsQuiet (work : Run α) : Prop := ∀ p, (runFrom work p).2.output = p.output

theorem isQuiet_pure (a : α) : IsQuiet (pure a) := fun _ => rfl

theorem IsQuiet.bind {work : Run α} {next : α → Run β} (hwork : IsQuiet work)
    (hnext : ∀ a, IsQuiet (next a)) : IsQuiet (work >>= next) := by
  intro p
  have houtput := hwork p
  rw [runFrom_bind]
  rcases hfrom : runFrom work p with ⟨_ | a, mid⟩ <;> rw [hfrom] at houtput
  · exact houtput
  · exact (hnext a mid).trans houtput

theorem runFrom_usable (a : Except UsageError α) (p : Progress) :
    runFrom (usable a) p = (a.mapError .usage, p) := by
  cases a <;> rfl

theorem isQuiet_usable (a : Except UsageError α) : IsQuiet (usable a) := by
  intro p
  rw [runFrom_usable]

theorem runFrom_needed (a : Outcome α) (p : Progress) :
    runFrom (needed a) p = (a.mapError .failure, p) := by
  cases a <;> rfl

/-- What is there or stops the work changes nothing. -/
theorem runFrom_liftM (a : Except Stop α) (p : Progress) :
    runFrom (liftM a : Run α) p = (a, p) := rfl

theorem isQuiet_liftM (a : Except Stop α) : IsQuiet (liftM a : Run α) := fun _ => rfl

variable [Text.StandIns]

/-! ### Printing -/

/-- Whether a text can be printed: there is no half of a surrogate pair in it, where it is written
as UTF-8. -/
def Streams.Take (streams : Streams) (text : String) : Prop :=
  streams = .utf8 → Text.IsWhole text.toList

theorem Streams.refusal?_eq_none_iff {streams : Streams} {text : String} :
    streams.refusal? text = none ↔ streams.Take text := by
  cases streams with
  | texts => simp [refusal?, Take]
  | utf8 => simp [refusal?, Take, Text.encodeError?_eq_none_iff]

theorem printable_of_take {s : Surroundings} {text : String} (h : s.streams.Take (shown s text)) :
    printable s text = .ok (shown s text) := by
  rw [printable, Streams.refusal?_eq_none_iff.2 h]

theorem printable_of_not_take {s : Surroundings} {text : String}
    (h : ¬s.streams.Take (shown s text)) :
    ∃ cause, printable s text = .error (.notEncodable cause) := by
  obtain ⟨cause, hcause⟩ := Option.ne_none_iff_exists'.1 (mt Streams.refusal?_eq_none_iff.1 h)
  exact ⟨cause, by rw [printable, hcause]⟩

/-- A text is printed if the output takes it; else it stops the work and nothing is printed. -/
theorem runFrom_print (s : Surroundings) (text : String) (p : Progress) :
    runFrom (print s text) p =
      match printable s text with
      | .ok line => (.ok (), { p with output := p.output ++ line })
      | .error e => (.error (.failure e), p) := by
  rw [print, runFrom_bind, runFrom_needed]
  cases printable s text <;> rfl

/-! ### Work with a journal -/

/-- The progress when a journal has been written into the error output. -/
def Progress.noting (p : Progress) (s : Surroundings) (log : LoggingSettings) (journal : Journal) :
    Progress :=
  { p with errors := p.errors ++ complaint s (journal.filterMap (eventLine s log)) }

theorem Progress.output_noting (p : Progress) (s : Surroundings) (log : LoggingSettings)
    (journal : Journal) : (p.noting s log journal).output = p.output := rfl

/-- How a failure stops work for which the settings are to blame. -/
def blame (part : SettingsPart) : Failure → Stop
  | .settings e => .usage (.settings part e)
  | e => .failure e

theorem runFrom_logged (s : Surroundings) (log : LoggingSettings) (work : Logged α)
    (p : Progress) :
    runFrom (logged s log work) p = (.ok work.result.1, p.noting s log work.result.2) := rfl

theorem runFrom_blaming (s : Surroundings) (log : LoggingSettings) (part : SettingsPart)
    (work : Logged α) (p : Progress) :
    runFrom (blaming s log part work) p =
      (work.result.1.mapError (blame part), p.noting s log work.result.2) := by
  rw [blaming, runFrom_bind, runFrom_logged]
  cases work.result.1 with
  | ok a => rfl
  | error e => cases e <;> rfl

theorem isQuiet_blaming (s : Surroundings) (log : LoggingSettings) (part : SettingsPart)
    (work : Logged α) : IsQuiet (blaming s log part work) := by
  intro p
  rw [runFrom_blaming, Progress.output_noting]

/-- Whether a review says what is wrong when it fails with this. -/
def IsReported : Failure → Prop
  | .diffFile _ | .reviewer _ => True
  | _ => False

/-- What is said about a failure. -/
def Progress.told (p : Progress) (s : Surroundings) (e : Failure) : Progress :=
  { p with errors := p.errors ++ complaint s [shown s ("Error: " ++ e.message)] }

theorem runFrom_reporting_of_ok {s : Surroundings} {log : LoggingSettings} {work : Logged α}
    {a : α} {journal : Journal} (h : work.result = (.ok a, journal)) (p : Progress) :
    runFrom (reporting s log work) p = (.ok a, p.noting s log journal) := by
  rw [reporting, runFrom_bind, runFrom_logged, h]
  rfl

theorem runFrom_reporting_of_isReported {s : Surroundings} {log : LoggingSettings}
    {work : Logged α} {e : Failure} {journal : Journal} (h : work.result = (.error e, journal))
    (he : IsReported e) (p : Progress) :
    runFrom (reporting s log work) p = (.error .unsuccessful, (p.noting s log journal).told s e) := by
  rw [reporting, runFrom_bind, runFrom_logged, h]
  cases e <;> first | exact he.elim | rfl

theorem runFrom_reporting_of_not_isReported {s : Surroundings} {log : LoggingSettings}
    {work : Logged α} {e : Failure} {journal : Journal} (h : work.result = (.error e, journal))
    (he : ¬IsReported e) (p : Progress) :
    runFrom (reporting s log work) p = (.error (.failure e), p.noting s log journal) := by
  rw [reporting, runFrom_bind, runFrom_logged, h]
  cases e <;> first | exact absurd trivial he | rfl

end PatchReview.Command
