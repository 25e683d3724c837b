import PatchReview.Finding
import PatchReview.Proofs.Outcome
import PatchReview.Proofs.Text.DigitRun

/-! What a finding is that a table describes.

The table of a finding describes the finding, but for its fingerprint (`ofEntries_entries`). Of
tables in general only the lines can be refused: a text that looks like digits and writes no
integer (`RefusesLine`) is; any other value that is no line number falls back to the default
(`exists_ofEntries`). -/
namespace PatchReview.Finding

open Text

/-! ### What a table says -/

/-- The value that says where the lines start. -/
def startValue (raw : Entries) : Option Value := raw.get? "start_line" <|> raw.get? "line"

/-- The value that says where the lines end. -/
def endValue (raw : Entries) : Option Value := raw.get? "end_line"

section
variable [StandIns]

/-- The texts that a table gives a finding. -/
structure GivesTexts (raw : Entries) (f : Finding) : Prop where
  ruleId : Value.plainOr "" ((raw.get? "rule_id").filter Value.isFilled <|> raw.get? "id") =
    .ok f.ruleId
  title : Value.plainOr f.ruleId (raw.get? "title") = .ok f.title
  severity : Value.plainOr defaultSeverity (raw.get? "severity") = .ok f.severity
  file : Value.plainOr "" (raw.get? "file_path" <|> raw.get? "file") = .ok f.file
  rationale : Value.plainOr "" (raw.get? "rationale") = .ok f.rationale
  suggestion : Value.plainOr "" (raw.get? "suggestion") = .ok f.suggestion
  content : Value.plainOr "" (raw.get? "content") = .ok f.content

/-- With its lines and its texts a table describes a finding. -/
theorem ofEntries_eq_ok {raw : Entries} {f : Finding}
    (hstart : lineOr 1 (startValue raw) = .ok f.startLine)
    (hend : lineOr f.startLine (endValue raw) = .ok f.endLine) (htexts : GivesTexts raw f)
    (hfingerprint : f.fingerprint = none)
    (hoccurrences : f.occurrences = occurrencesOf? (raw.get? "aggregated_count")) :
    ofEntries raw = .ok f := by
  obtain ⟨hid, htitle, hseverity, hfile, hrationale, hsuggestion, hcontent⟩ := htexts
  rw [startValue] at hstart
  rw [endValue] at hend
  obtain ⟨⟩ := f
  simp only at *
  simp only [ofEntries, hstart, hend, hid, htitle, hseverity, hfile, hrationale, hsuggestion,
    hcontent, hfingerprint, hoccurrences, bind, Except.bind]
  rfl

end

/-! ### Tables of findings -/

/-- A finding that says what it is about, and how often it was seen if that is said at all. -/
structure IsStated (f : Finding) : Prop where
  title : f.title ≠ ""
  severity : f.severity ≠ ""
  occurrences : occurrencesOf? f.occurrences = f.occurrences

/-- Without an identifier of its own a finding has none. -/
theorem get?_id_entries (f : Finding) : Keyed.get? "id" f.entries = none := by
  obtain ⟨_, _, _, _, _, _, _, _, _, fingerprint, occurrences⟩ := f
  cases occurrences <;> cases fingerprint <;> rfl

theorem get?_occurrences_entries (f : Finding) :
    Keyed.get? "aggregated_count" f.entries = f.occurrences := by
  obtain ⟨_, _, _, _, _, _, _, _, _, fingerprint, occurrences⟩ := f
  cases occurrences <;> cases fingerprint <;> rfl

section
variable [StandIns]

theorem plainOr_text {default s : String} (h : s ≠ "" ∨ default = "") :
    Value.plainOr default (some (.text s)) = .ok s := by
  rw [Value.plainOr]
  split
  · rfl
  · rename_i hempty
    have hs : s = "" := by simpa [Value.isFilled] using hempty
    rcases h with h | rfl
    · exact absurd hs h
    · rw [hs]

/-- The table of a finding describes the finding, which then has no fingerprint. -/
theorem ofEntries_entries {f : Finding} (h : f.IsStated) :
    ofEntries f.entries = .ok { f with fingerprint := none } := by
  have hid : Value.plainOr "" ((Keyed.get? "rule_id" f.entries).filter Value.isFilled <|>
      Keyed.get? "id" f.entries) = .ok f.ruleId := by
    show Value.plainOr "" ((some (Value.text f.ruleId)).filter Value.isFilled <|> _) = _
    rw [get?_id_entries]
    by_cases hempty : f.ruleId = ""
    · rw [hempty]
      rfl
    · rw [Option.filter_some, if_pos (by simpa [Value.isFilled] using hempty)]
      exact plainOr_text (.inl hempty)
  refine ofEntries_eq_ok rfl rfl ?_ rfl ?_
  · exact ⟨hid, plainOr_text (.inl h.title), plainOr_text (.inl h.severity),
      plainOr_text (.inr rfl), plainOr_text (.inr rfl), plainOr_text (.inr rfl),
      plainOr_text (.inr rfl)⟩
  · rw [get?_occurrences_entries, h.occurrences]

end

/-! ### Lines -/

/-- The line number that a value can be read as: an integer, or decimal digits with blanks around. -/
def lineOf? : Value → Option Int
  | .int i => some i
  | .text s =>
    let digits := (trimmed s).toList
    if !digits.isEmpty && digits.all isDigit && digits.length ≤ digitLimit then
      some (digitsValue digits)
    else none
  | _ => none

/-- A text that passes for a line number and cannot be read as one. -/
def Refused (v : Value) : Prop :=
  ∃ s, v = .text s ∧ IsRun (trimmed s).toList ∧ ¬IsPlainRun (trimmed s).toList

/-- A table with such a text for one of its lines. -/
def RefusesLine (raw : Entries) : Prop :=
  ∃ v, (startValue raw = some v ∨ endValue raw = some v) ∧ Refused v

theorem lineOf?_of_isPlainRun {s : String} (hrun : IsRun (trimmed s).toList)
    (hplain : IsPlainRun (trimmed s).toList) :
    lineOf? (.text s) = some (digitsValue (trimmed s).toList) := by
  simp [lineOf?, hrun.ne_nil, List.all_eq_true.2 hplain.digit, hplain.length_le]

theorem lineOf?_of_not_isRun {s : String} (h : ¬IsRun (trimmed s).toList) :
    lineOf? (.text s) = none := by
  refine if_neg fun htest => h ?_
  simp only [Bool.and_eq_true, Bool.not_eq_true', List.isEmpty_eq_false_iff,
    List.all_eq_true] at htest
  obtain ⟨⟨hne, hdigits⟩, -⟩ := htest
  refine ⟨hne, fun c hc => ?_⟩
  rw [isDigitLike, hdigits c hc, Bool.true_or]

/-- The test of a line looks for a run of what looks like digits. -/
theorem lineOr_text (default : Int) (s : String) :
    lineOr default (some (.text s)) =
      if !(trimmed s).isEmpty && (trimmed s).toList.all isDigitLike then
        (readInteger (trimmed s)).mapError .numeral
      else .ok default := rfl

theorem test_eq_true_iff {text : String} :
    (!text.isEmpty && text.toList.all isDigitLike) = true ↔ IsRun text.toList := by
  rw [Bool.and_eq_true, Bool.not_eq_true', List.all_eq_true]
  constructor
  · rintro ⟨hne, hall⟩
    refine ⟨fun hnil => ?_, hall⟩
    rw [String.toList_eq_nil_iff.1 hnil] at hne
    exact absurd hne (by decide)
  · rintro ⟨hne, hall⟩
    refine ⟨Bool.eq_false_iff.2 fun hempty => hne ?_, hall⟩
    rw [String.isEmpty_iff.1 hempty]
    rfl

theorem lineOr_of_refused (default : Int) {v : Value} (h : Refused v) :
    ∃ e, lineOr default (some v) = .error (.numeral e) := by
  obtain ⟨s, rfl, hrun, hplain⟩ := h
  obtain ⟨e, he⟩ := readInteger_of_not_isPlainRun hrun hplain
  rw [lineOr_text, if_pos (test_eq_true_iff.2 hrun), he]
  exact ⟨e, rfl⟩

/-- Every value that is not refused gives a line, if need be the default. -/
theorem lineOr_of_not_refused (default : Int) {v : Option Value}
    (h : ∀ x, v = some x → ¬Refused x) :
    lineOr default v = .ok ((v.bind lineOf?).getD default) := by
  rcases v with _ | v
  · rfl
  cases v with
  | text s =>
    by_cases hrun : IsRun (trimmed s).toList
    · have hplain : IsPlainRun (trimmed s).toList := by
        by_contra hplain
        exact h _ rfl ⟨s, rfl, hrun, hplain⟩
      rw [lineOr_text, if_pos (test_eq_true_iff.2 hrun), readInteger_of_isPlainRun hrun hplain,
        Option.bind_some, lineOf?_of_isPlainRun hrun hplain]
      rfl
    · rw [lineOr_text, if_neg (fun htest => hrun (test_eq_true_iff.1 htest)), Option.bind_some,
        lineOf?_of_not_isRun hrun]
      rfl
  | int => rfl
  | _ => rfl

/-- What a table says of the lines of a finding. -/
structure GivesLines (raw : Entries) (f : Finding) : Prop where
  startLine : f.startLine = ((startValue raw).bind lineOf?).getD 1
  endLine : f.endLine = ((endValue raw).bind lineOf?).getD f.startLine

section
variable [StandIns] {raw : Entries}

theorem ofEntries_of_refusesLine (h : RefusesLine raw) :
    ∃ e, ofEntries raw = .error (.numeral e) := by
  by_cases hstart : ∃ v, startValue raw = some v ∧ Refused v
  · obtain ⟨v, hv, hrefused⟩ := hstart
    obtain ⟨e, he⟩ := lineOr_of_refused 1 hrefused
    rw [← hv, startValue] at he
    refine ⟨e, ?_⟩
    simp only [ofEntries, he, bind, Except.bind]
  · have hline := lineOr_of_not_refused 1 (v := startValue raw)
      fun v hv hrefused => hstart ⟨v, hv, hrefused⟩
    obtain ⟨v, hv, hrefused⟩ := h
    have hv : endValue raw = some v := hv.resolve_left fun hv => hstart ⟨v, hv, hrefused⟩
    obtain ⟨e, he⟩ := lineOr_of_refused (((startValue raw).bind lineOf?).getD 1) hrefused
    rw [← hv, endValue] at he
    refine ⟨e, ?_⟩
    rw [startValue] at hline he
    simp only [ofEntries, hline, he, bind, Except.bind]

theorem exists_plainOr (default : String) {v : Option Value}
    (h : ∀ x, v = some x → x.isWritable = true) : ∃ s, Value.plainOr default v = .ok s := by
  rcases v with _ | v
  · exact ⟨default, rfl⟩
  · rw [Value.plainOr]
    split
    · exact ⟨v.plain, if_pos (h v rfl)⟩
    · exact ⟨default, rfl⟩

/-- A table whose values can be written is refused for its lines alone. -/
theorem exists_ofEntries (h : ¬RefusesLine raw)
    (hwritable : ∀ name v, raw.get? name = some v → v.isWritable = true) :
    ∃ f, ofEntries raw = .ok f ∧ GivesLines raw f := by
  have hstart := lineOr_of_not_refused 1 fun v hv hrefused => h ⟨v, .inl hv, hrefused⟩
  have hend := lineOr_of_not_refused (((startValue raw).bind lineOf?).getD 1)
    fun v hv hrefused => h ⟨v, .inr hv, hrefused⟩
  obtain ⟨ruleId, hid⟩ : ∃ s, Value.plainOr ""
      ((raw.get? "rule_id").filter Value.isFilled <|> raw.get? "id") = .ok s := by
    refine exists_plainOr "" fun v hv => ?_
    rcases Option.or_eq_some_iff.1 (Option.orElse_eq_or.symm.trans hv) with hv | ⟨-, hv⟩
    · exact hwritable _ v (Option.filter_eq_some_iff.1 hv).1
    · exact hwritable _ v hv
  obtain ⟨file, hfile⟩ : ∃ s, Value.plainOr "" (raw.get? "file_path" <|> raw.get? "file") =
      .ok s := by
    refine exists_plainOr "" fun v hv => ?_
    rcases Option.or_eq_some_iff.1 (Option.orElse_eq_or.symm.trans hv) with hv | ⟨-, hv⟩
    · exact hwritable _ v hv
    · exact hwritable _ v hv
  obtain ⟨title, htitle⟩ := exists_plainOr ruleId (hwritable "title")
  obtain ⟨severity, hseverity⟩ := exists_plainOr defaultSeverity (hwritable "severity")
  obtain ⟨rationale, hrationale⟩ := exists_plainOr "" (hwritable "rationale")
  obtain ⟨suggestion, hsuggestion⟩ := exists_plainOr "" (hwritable "suggestion")
  obtain ⟨content, hcontent⟩ := exists_plainOr "" (hwritable "content")
  refine ⟨⟨ruleId, title, severity, file, _, _, rationale, suggestion, content, none, _⟩,
    ofEntries_eq_ok hstart hend ?_ rfl rfl, rfl, rfl⟩
  exact ⟨hid, htitle, hseverity, hfile, hrationale, hsuggestion, hcontent⟩

end

end PatchReview.Finding
