import PatchReview.Proofs.Journal
import PatchReview.Proofs.Outcome
import PatchReview.Proofs.Text.Case
import PatchReview.Settings.Reader

/-! Settings and their tables.

What a check has accepted is accepted again in the form in which it is listed, and comes to the same
(`checkRest_entries`). For most fields that holds of every value. Names and limits have to be in the
form to which a check brings them (`IsNormal`), and the prompts have the guidelines already, or
still lack them for the same reason (`run_withGuidelines_again`). So settings that are listed as a
table and read again are the same settings (`read_again`), as long as the table has no references
to replace; it never has where names mean nothing (`expandTable_nil`). -/
namespace PatchReview

open Logged Outcome

namespace Environment

/-! ### Nothing to replace -/

/-- A name in braces at the front of a text, put back. -/
theorem reference_append_of_braced? {s name rest : List Char} (h : braced? s = some (name, rest)) :
    reference name ++ rest = '$' :: s := by
  unfold braced? at h
  split at h
  · rename_i s
    split at h
    · rename_i after hafter
      dsimp only at h
      split at h
      · cases h
      · cases h
        have hs : s = s.takeWhile isNameChar ++ '\x7d' :: rest := by
          rw [← hafter, List.takeWhile_append_dropWhile]
        conv => rhs; rw [hs]
        simp [reference]
    · cases h
  · cases h

/-- Where names mean nothing, references stay as they are. -/
theorem expandChars_nil (s : List Char) : expandChars [] s = s := by
  fun_induction expandChars [] s with
  | case1 => rfl
  | case2 s name rest hname ih =>
    rw [ih]
    exact reference_append_of_braced? hname
  | case3 s _ ih => rw [ih]
  | case4 c s _ ih => rw [ih]

mutual

theorem expand_nil : (v : Value) → expand [] v = v
  | .text s => by rw [expand, expandText, expandChars_nil, String.ofList_toList]
  | .list items => by rw [expand, expandItems_nil items]
  | .table entries => by rw [expand, expandEntries_nil entries]
  | .null | .bool _ | .int _ | .float _ | .moment _ => rfl

theorem expandItems_nil : (items : List Value) → expandItems [] items = items
  | [] => rfl
  | v :: rest => by rw [expandItems, expand_nil v, expandItems_nil rest]

theorem expandEntries_nil : (entries : List (String × Value)) → expandEntries [] entries = entries
  | [] => rfl
  | (key, v) :: rest => by rw [expandEntries, expand_nil v, expandEntries_nil rest]

end

theorem expandTable_nil {entries : Entries} (h : (Value.table entries).depth ≤ depthLimit) :
    expandTable [] entries = .ok entries := by
  rw [expandTable, if_pos h, expandEntries_nil]

end Environment

section
variable [Text.StandIns]

/-! ### Guidelines -/

namespace Prompts

/-- The prompts with a text about guidelines. -/
def withText (p : Prompts) (content : String) : Prompts :=
  { p with extra := p.extra ++ [guidelinesText content] }

omit [Text.StandIns] in
theorem haveGuidelines_withText (p : Prompts) (content : String) :
    (p.withText content).haveGuidelines = true := by
  have hmark : Text.occursIn guidelinesMark.toList (guidelinesText content).toList = true := by
    rw [guidelinesText, String.append_assoc, String.toList_append]
    exact Text.occursIn_append _ _
  rw [haveGuidelines, withText, List.any_append, List.any_cons, hmark, Bool.true_or, Bool.or_true]

variable {files : Files} {path : Path} {given p : Prompts} {j j' : Journal}

theorem run_withGuidelines_of_haveGuidelines (h : given.haveGuidelines = true) (j : Journal) :
    run (given.withGuidelines files path) j = (.ok given, j) := by
  rw [withGuidelines, if_pos h]
  rfl

/-- Guidelines are added once, if there are none yet and their file has some; the prompts stay
as they are otherwise. -/
theorem withGuidelines_cases (h : run (given.withGuidelines files path) j = (.ok p, j')) :
    p = given ∨ (given.haveGuidelines = false ∧ j' = j ∧ ∃ content,
      files.read path = .ok content ∧ Text.isBlankText content = false ∧
        p = given.withText content) := by
  cases hgiven : given.haveGuidelines with
  | true =>
    rw [run_withGuidelines_of_haveGuidelines hgiven] at h
    cases h
    exact .inl rfl
  | false =>
    rw [withGuidelines, hgiven, if_neg Bool.false_ne_true] at h
    cases hread : files.read path with
    | error e =>
      rw [hread] at h
      cases e <;> cases h <;> exact .inl rfl
    | ok content =>
      rw [hread] at h
      dsimp only at h
      cases hblank : Text.isBlankText content with
      | true =>
        rw [hblank, if_pos rfl] at h
        cases h
        exact .inl rfl
      | false =>
        rw [hblank, if_neg Bool.false_ne_true] at h
        cases h
        exact .inr ⟨rfl, rfl, content, rfl, hblank, rfl⟩

/-- To look for guidelines again changes nothing, and writes down the same. -/
theorem run_withGuidelines_again (h : run (given.withGuidelines files path) j = (.ok p, j')) :
    run (p.withGuidelines files path) j = (.ok p, j') := by
  rcases withGuidelines_cases h with rfl | ⟨-, rfl, content, -, -, rfl⟩
  · exact h
  · exact run_withGuidelines_of_haveGuidelines (haveGuidelines_withText given content) _

end Prompts

/-- Names are in lower case, and no limit is set twice. -/
structure PolicySettings.IsNormal (p : PolicySettings) : Prop where
  leastSeverity : Text.lower p.leastSeverity = p.leastSeverity
  nodup : p.severityLimits.keys.Nodup
  severities : ∀ name ∈ p.severityLimits.keys, Text.lower name = name

/-! ### What the checks accept -/

namespace Settings

omit [Text.StandIns] in
theorem mapM_text? (items : List String) : (items.map Value.text).mapM text? = some items := by
  induction items with
  | nil => rfl
  | cons s rest ih => simp [ih, text?]

omit [Text.StandIns] in
theorem mapM_table? (tables : List Entries) :
    (tables.map Value.table).mapM table? = some tables := by
  induction tables with
  | nil => rfl
  | cons t rest ih => simp [ih, table?]

omit [Text.StandIns] in
theorem checkTexts_texts (field : String) (items : List String) :
    checkTexts field (some (Value.texts items)) = .ok items := by
  rw [Value.texts, checkTexts, checkItems, mapM_text?]

omit [Text.StandIns] in
theorem checkTables_tables (field : String) (tables : List Entries) :
    checkTables field (some (.list (tables.map .table))) = .ok tables := by
  rw [checkTables, checkItems, mapM_table?]

omit [Text.StandIns] in
theorem checkTextOrTexts_texts (field : String) (items : List String) :
    checkTextOrTexts field (some (Value.texts items)) = .ok items := checkTexts_texts field items

omit [Text.StandIns] in
theorem checkPositive_natCast (field : String) {n : Nat} (h : 0 < n) :
    checkPositive field (.int n) = .ok ⟨n, h⟩ := by
  have hpos : 0 < (n : Int) := Int.natCast_pos.2 h
  simp only [checkPositive, checkInteger, bind, Except.bind, dif_pos hpos, pure, Except.pure,
    Int.toNat_natCast]

/-- A name in lower case is a choice if it is the name of one. -/
theorem checkChoice_name {α : Type} (field : String) {choices : List α} {name : α → String} {a : α}
    (hlower : Text.lower (name a) = name a)
    (hfind : (choices.find? fun b => name b == name a) = some a) :
    checkChoice field choices name (.text (name a)) = .ok a := by
  have hplain : (Value.text (name a)).plainText = .ok (name a) := rfl
  simp only [checkChoice, hplain, bind, Except.bind, hlower, hfind]
  rfl

theorem checkFormat_name (field : String) (format : ReportFormat) :
    checkChoice field ReportFormat.all ReportFormat.name (.text format.name) = .ok format := by
  refine checkChoice_name field ?_ ?_
  · cases format <;> decide +kernel
  · cases format <;> rfl

theorem checkLevel_name (field : String) (level : Level) :
    checkChoice field [.debug, .info, .warning, .error] Level.name (.text level.name) =
      .ok level := by
  refine checkChoice_name field ?_ ?_
  · cases level <;> decide +kernel
  · cases level <;> rfl

theorem checkContext_entries (c : ContextSettings) : checkContext c.entries = .ok c := by
  have hstrategy : Text.lower c.overflow.name = c.overflow.name := by
    cases c.overflow <;> decide +kernel
  have hoverflow : (if c.overflow.name == "keep" then Overflow.keep else .trim) = c.overflow := by
    cases c.overflow <;> rfl
  refine bind_eq_ok_iff.2 ⟨c.overflow.name, rfl, ?_⟩
  refine bind_eq_ok_iff.2 ⟨_, checkPositive_natCast _ c.tokenLimit_pos, ?_⟩
  refine bind_eq_ok_iff.2 ⟨_, checkPositive_natCast _ c.fileCap_pos, ?_⟩
  refine bind_eq_ok_iff.2 ⟨c.byContext, rfl, ?_⟩
  rw [hstrategy]
  simp only [hoverflow]
  rfl

omit [Text.StandIns] in
theorem checkRules_entries (r : RuleSettings) : checkRules r.entries = .ok r := by
  refine bind_eq_ok_iff.2 ⟨r.included, checkTexts_texts _ _, ?_⟩
  exact bind_eq_ok_iff.2 ⟨r.given, checkTables_tables _ _, rfl⟩

theorem checkLogging_entries (l : LoggingSettings) :
    checkLogging [("level", .text l.level.name), ("json", .bool l.json)] = .ok l := by
  refine bind_eq_ok_iff.2 ⟨l.level, checkLevel_name _ _, ?_⟩
  exact bind_eq_ok_iff.2 ⟨l.json, rfl, rfl⟩

omit [Text.StandIns] in
theorem checkPrompts_entries (p : Prompts) :
    checkPrompts [("system_append", Value.texts p.toSystem), ("user_append", Value.texts p.toUser),
      ("extra", Value.texts p.extra)] = .ok p := by
  refine bind_eq_ok_iff.2 ⟨p.toSystem, checkTextOrTexts_texts _ _, ?_⟩
  refine bind_eq_ok_iff.2 ⟨p.toUser, checkTextOrTexts_texts _ _, ?_⟩
  exact bind_eq_ok_iff.2 ⟨p.extra, checkTextOrTexts_texts _ _, rfl⟩

/-! ### Names and limits -/

omit [Text.StandIns] in
theorem checkLimits_entries {limits : Keyed String Int} (hnodup : limits.keys.Nodup)
    (hlower : ∀ name ∈ limits.keys, Text.lower name = name) :
    checkLimits (limits.map fun (name, n) => (name, .int n)) = .ok limits := by
  refine bind_eq_ok_iff.2 ⟨limits, ?_, ?_⟩
  · refine mapM_eq_ok_iff.2 (List.forall₂_map_left_iff.2 (List.forall₂_same.2 ?_))
    intro (name, n) h
    have hname : Text.lower name = name := hlower name (List.mem_map.2 ⟨_, h, rfl⟩)
    exact bind_eq_ok_iff.2 ⟨n, rfl, by rw [hname]; rfl⟩
  · rw [Keyed.ofList_of_nodup hnodup]
    rfl

omit [Text.StandIns] in
/-- Limits that were checked have different names in lower case. -/
theorem normal_of_checkLimits {raw : Entries} {limits : Keyed String Int}
    (h : checkLimits raw = .ok limits) :
    limits.keys.Nodup ∧ ∀ name ∈ limits.keys, Text.lower name = name := by
  obtain ⟨made, hmade, h⟩ := bind_eq_ok_iff.1 h
  obtain rfl := Except.ok.inj h
  refine ⟨Keyed.nodup_keys_ofList made, fun name hname => ?_⟩
  obtain ⟨entry, hentry, rfl⟩ := List.mem_map.1 (Keyed.mem_keys_ofList.1 hname)
  obtain ⟨⟨first, v⟩, -, hfirst⟩ := exists_of_mem_mapM hmade hentry
  obtain ⟨n, -, hn⟩ := bind_eq_ok_iff.1 hfirst
  obtain rfl := Except.ok.inj hn
  exact Text.lower_lower first

theorem checkPolicy_entries {p : PolicySettings} (h : p.IsNormal) :
    checkPolicy p.entries = .ok p := by
  refine bind_eq_ok_iff.2 ⟨p.severityLimits.map fun (name, n) => (name, .int n), rfl, ?_⟩
  refine bind_eq_ok_iff.2 ⟨p.leastSeverity, rfl, ?_⟩
  refine bind_eq_ok_iff.2 ⟨p.maxComments, rfl, ?_⟩
  refine bind_eq_ok_iff.2 ⟨p.redactSecrets, rfl, ?_⟩
  refine bind_eq_ok_iff.2 ⟨p.consolidate, rfl, ?_⟩
  refine bind_eq_ok_iff.2 ⟨p.maxPerFile, rfl, ?_⟩
  refine bind_eq_ok_iff.2 ⟨p.severityLimits, checkLimits_entries h.nodup h.severities, ?_⟩
  rw [h.leastSeverity]
  rfl

theorem isNormal_of_checkPolicy {raw : Entries} {p : PolicySettings} (h : checkPolicy raw = .ok p) :
    p.IsNormal := by
  obtain ⟨limits, -, h⟩ := bind_eq_ok_iff.1 h
  obtain ⟨severity, -, h⟩ := bind_eq_ok_iff.1 h
  obtain ⟨maxComments, -, h⟩ := bind_eq_ok_iff.1 h
  obtain ⟨redact, -, h⟩ := bind_eq_ok_iff.1 h
  obtain ⟨consolidate, -, h⟩ := bind_eq_ok_iff.1 h
  obtain ⟨maxPerFile, -, h⟩ := bind_eq_ok_iff.1 h
  obtain ⟨checked, hchecked, h⟩ := bind_eq_ok_iff.1 h
  obtain rfl := Except.ok.inj h
  have ⟨hnodup, hlower⟩ := normal_of_checkLimits hchecked
  exact ⟨Text.lower_lower severity, hnodup, hlower⟩

/-- The reviewer has a name in lower case, without blanks around it. -/
structure IsNormal (s : Settings) : Prop where
  filled : Text.isBlankText s.reviewer = false
  trimmed : Text.trimmed s.reviewer = s.reviewer
  lower : Text.lower s.reviewer = s.reviewer
  policy : s.policy.IsNormal

omit [Text.StandIns] in
theorem checkReviewer_eq_ok_iff {v : Value} {reviewer : String} :
    checkReviewer v = .ok reviewer ↔ v = .text reviewer ∧ Text.isBlankText reviewer = false := by
  constructor
  · intro h
    cases v with
    | text s =>
      rw [checkReviewer] at h
      cases hblank : Text.isBlankText s with
      | true =>
        rw [hblank, if_pos rfl] at h
        cases h
      | false =>
        rw [hblank, if_neg Bool.false_ne_true] at h
        cases h
        exact ⟨rfl, hblank⟩
    | _ => cases h
  · rintro ⟨rfl, hblank⟩
    rw [checkReviewer, hblank, if_neg Bool.false_ne_true]

variable {reviewer : String} {guidelines : Option String} {prompts : Prompts} {root : Option Path}
  {source : Option String} {raw : Entries} {s : Settings}

theorem checkRest_eq_ok (h : checkRest raw reviewer guidelines prompts root source = .ok s) :
    s.reviewer = Text.lower (Text.trimmed reviewer) ∧ s.policy.IsNormal ∧
      s.guidelinesFile = guidelines ∧ s.prompts = prompts ∧ s.root = root ∧ s.source = source := by
  obtain ⟨format, -, h⟩ := bind_eq_ok_iff.1 h
  obtain ⟨excludes, -, h⟩ := bind_eq_ok_iff.1 h
  obtain ⟨contextTable, -, h⟩ := bind_eq_ok_iff.1 h
  obtain ⟨context, -, h⟩ := bind_eq_ok_iff.1 h
  obtain ⟨policyTable, -, h⟩ := bind_eq_ok_iff.1 h
  obtain ⟨policy, hpolicy, h⟩ := bind_eq_ok_iff.1 h
  obtain ⟨rulesTable, -, h⟩ := bind_eq_ok_iff.1 h
  obtain ⟨rules, -, h⟩ := bind_eq_ok_iff.1 h
  obtain ⟨loggingTable, -, h⟩ := bind_eq_ok_iff.1 h
  obtain ⟨logging, -, h⟩ := bind_eq_ok_iff.1 h
  obtain rfl := Except.ok.inj h
  exact ⟨rfl, isNormal_of_checkPolicy hpolicy, rfl, rfl, rfl, rfl⟩

theorem isNormal_of_checkRest (hfilled : Text.isBlankText reviewer = false)
    (h : checkRest raw reviewer guidelines prompts root source = .ok s) : s.IsNormal := by
  have ⟨hreviewer, hpolicy, _⟩ := checkRest_eq_ok h
  have ⟨hname, htrimmed⟩ := Text.trimmed_lower_trimmed hfilled
  rw [← hreviewer] at hname htrimmed
  refine ⟨hname, htrimmed, ?_, hpolicy⟩
  rw [hreviewer, Text.lower_lower]

/-- The fields of a table of settings are accepted again. -/
theorem checkRest_entries (h : s.IsNormal) :
    checkRest s.entries s.reviewer s.guidelinesFile s.prompts s.root s.source = .ok s := by
  refine bind_eq_ok_iff.2 ⟨s.format, checkFormat_name _ _, ?_⟩
  refine bind_eq_ok_iff.2 ⟨s.excludes, checkTexts_texts _ _, ?_⟩
  refine bind_eq_ok_iff.2 ⟨s.context.entries, rfl, ?_⟩
  refine bind_eq_ok_iff.2 ⟨s.context, checkContext_entries _, ?_⟩
  refine bind_eq_ok_iff.2 ⟨s.policy.entries, rfl, ?_⟩
  refine bind_eq_ok_iff.2 ⟨s.policy, checkPolicy_entries h.policy, ?_⟩
  refine bind_eq_ok_iff.2 ⟨s.rules.entries, rfl, ?_⟩
  refine bind_eq_ok_iff.2 ⟨s.rules, checkRules_entries _, ?_⟩
  refine bind_eq_ok_iff.2 ⟨_, rfl, ?_⟩
  refine bind_eq_ok_iff.2 ⟨s.logging, checkLogging_entries _, ?_⟩
  rw [h.trimmed, h.lower]
  rfl

/-! ### Reading a table -/

/-- The prompts that a table gives, before guidelines are added. -/
def givenPrompts (env : Environment) (raw : Entries) : Outcome Prompts := do
  checkPrompts (← checkTable "prompts" ((← env.expandTable raw).get? "prompts"))

/-- Adds the guidelines of a file to some prompts, if there is a file. -/
def complete (files : Files) (root : Option Path) (guidelines : Option String) (prompts : Prompts) :
    Logged Prompts :=
  match guidelines with
  | none | some "" => pure prompts
  | some text => prompts.withGuidelines files (fromRoot root text)

variable {env : Environment} {files : Files} {given p : Prompts} {j j' : Journal}

theorem ofEntries_eq (env : Environment) (files : Files) (root : Option Path)
    (source : Option String) (raw : Entries) :
    ofEntries env files root source raw = (do
      let raw ← env.expandTable raw
      let reviewer ← checkReviewer (raw.field "provider" (.text "mock"))
      let guidelines ← checkGuidelinesFile (raw.get? "guidelines_file")
      let given ← checkPrompts (← checkTable "prompts" (raw.get? "prompts"))
      let prompts ← complete files root guidelines given
      checkRest raw reviewer guidelines prompts root source) := by
  unfold ofEntries complete
  refine bind_congr fun raw => bind_congr fun reviewer => bind_congr fun guidelines => ?_
  refine bind_congr fun table => bind_congr fun given => ?_
  split
  · rfl
  · rfl
  · simp only

theorem complete_cases (h : run (complete files root guidelines given) j = (.ok p, j')) :
    p = given ∨ (given.haveGuidelines = false ∧ ∃ name content, guidelines = some name ∧
      files.read (fromRoot root name) = .ok content ∧ Text.isBlankText content = false ∧
        p = given.withText content) := by
  unfold complete at h
  split at h
  · cases h
    exact .inl rfl
  · cases h
    exact .inl rfl
  · rename_i name _
    rcases Prompts.withGuidelines_cases h with hsame | ⟨hnone, -, content, hread, hfilled, hp⟩
    · exact .inl hsame
    · exact .inr ⟨hnone, name, content, rfl, hread, hfilled, hp⟩

theorem run_complete_again (h : run (complete files root guidelines given) j = (.ok p, j')) :
    run (complete files root guidelines p) j = (.ok p, j') := by
  unfold complete at h ⊢
  split at h
  · cases h
    rfl
  · cases h
    rfl
  · exact Prompts.run_withGuidelines_again h

omit [Text.StandIns] in
theorem checkGuidelinesFile_textOrNull (guidelines : Option String) :
    checkGuidelinesFile (some (textOrNull guidelines)) = .ok guidelines := by
  cases guidelines <;> rfl

/-- Settings that are listed as a table and read again, behind the same environment and files, are
the same settings, with the same journal. The guidelines have been added once at most: the prompts
are the ones that were given or, where these had no guidelines and the file has some, those with
the text of the file behind them. -/
theorem read_again
    (h : (ofEntries env files root source raw).result = (.ok s, j))
    (hplain : env.expandTable s.entries = .ok s.entries) :
    (ofEntries env files root source s.entries).result = (.ok s, j) ∧
      ∃ given, givenPrompts env raw = .ok given ∧
        (s.prompts = given ∨ (given.haveGuidelines = false ∧ ∃ name content,
          s.guidelinesFile = some name ∧ files.read (fromRoot root name) = .ok content ∧
            Text.isBlankText content = false ∧ s.prompts = given.withText content)) := by
  rw [result_eq_run, ofEntries_eq] at h
  obtain ⟨expanded, hexpanded, h⟩ := run_liftM_bind_eq_ok_iff.1 h
  obtain ⟨reviewer, hreviewer, h⟩ := run_liftM_bind_eq_ok_iff.1 h
  obtain ⟨guidelines, hguidelines, h⟩ := run_liftM_bind_eq_ok_iff.1 h
  obtain ⟨table, htable, h⟩ := run_liftM_bind_eq_ok_iff.1 h
  obtain ⟨given, hgiven, h⟩ := run_liftM_bind_eq_ok_iff.1 h
  obtain ⟨prompts, mid, hcomplete, h⟩ := run_bind_eq_ok_iff.1 h
  rw [run_liftM, Prod.mk.injEq] at h
  obtain ⟨hrest, rfl⟩ := h
  have hnormal := isNormal_of_checkRest (checkReviewer_eq_ok_iff.1 hreviewer).2 hrest
  obtain ⟨-, -, rfl, rfl, rfl, rfl⟩ := checkRest_eq_ok hrest
  constructor
  · rw [result_eq_run, ofEntries_eq]
    refine run_liftM_bind_eq_ok_iff.2 ⟨s.entries, hplain, ?_⟩
    have hname := checkReviewer_eq_ok_iff.2 ⟨rfl, hnormal.filled⟩
    refine run_liftM_bind_eq_ok_iff.2 ⟨s.reviewer, hname, ?_⟩
    refine run_liftM_bind_eq_ok_iff.2 ⟨s.guidelinesFile, checkGuidelinesFile_textOrNull _, ?_⟩
    refine run_liftM_bind_eq_ok_iff.2 ⟨_, rfl, ?_⟩
    refine run_liftM_bind_eq_ok_iff.2 ⟨s.prompts, checkPrompts_entries _, ?_⟩
    refine run_bind_eq_ok_iff.2 ⟨s.prompts, mid, run_complete_again hcomplete, ?_⟩
    rw [run_liftM, checkRest_entries hnormal]
  · refine ⟨given, ?_, complete_cases hcomplete⟩
    exact bind_eq_ok_iff.2 ⟨expanded, hexpanded, bind_eq_ok_iff.2 ⟨table, htable, hgiven⟩⟩

end Settings

end

/-- A reviewer between blanks, a limit that is set twice, and guidelines in a file. -/
theorem Settings.read_again_guidelines :
    letI : Text.StandIns := ⟨.besides []⟩
    let files : Files := ⟨[], [(["g.md"], .file [72, 105])]⟩
    let raw : Entries := [("provider", .text " Mock "), ("guidelines_file", .text "g.md"),
      ("prompts", .table [("extra", .text "Be kind.")]),
      ("policy", .table [("severity_limits", .table [("Major", .int 3), ("MAJOR", .int 5)])])]
    ∃ s, (ofEntries [] files none none raw).result = (.ok s, []) ∧
      Environment.expandTable [] s.entries = .ok s.entries ∧
      (ofEntries [] files none none s.entries).result = (.ok s, []) ∧
      s.prompts.extra = ["Be kind.", Prompts.guidelinesText "Hi"] := by
  let _ : Text.StandIns := ⟨.besides []⟩
  intro files raw
  let s : Settings := ⟨"mock", .summary, [], some "g.md", .default,
    { PolicySettings.default with severityLimits := [("major", 5)] }, ⟨[], []⟩,
    Prompts.withText ⟨[], [], ["Be kind."]⟩ "Hi", .default, none, none⟩
  have hraw : Environment.expandTable [] raw = .ok raw := Environment.expandTable_nil (by decide)
  have hplain : Environment.expandTable [] s.entries = .ok s.entries :=
    Environment.expandTable_nil (by decide)
  have hread : files.read (fromRoot none "g.md") = .ok "Hi" := by decide +kernel
  have h : (ofEntries [] files none none raw).result = (.ok s, []) := by
    rw [result_eq_run, ofEntries_eq]
    refine run_liftM_bind_eq_ok_iff.2 ⟨raw, hraw, ?_⟩
    refine run_liftM_bind_eq_ok_iff.2 ⟨" Mock ", rfl, ?_⟩
    refine run_liftM_bind_eq_ok_iff.2 ⟨some "g.md", rfl, ?_⟩
    refine run_liftM_bind_eq_ok_iff.2 ⟨_, rfl, ?_⟩
    refine run_liftM_bind_eq_ok_iff.2 ⟨⟨[], [], ["Be kind."]⟩, rfl, ?_⟩
    refine run_bind_eq_ok_iff.2 ⟨s.prompts, [], ?_, ?_⟩
    · show run (Prompts.withGuidelines _ files (fromRoot none "g.md")) [] = _
      rw [Prompts.withGuidelines, if_neg (by decide +kernel), hread]
      rfl
    · have hreviewer : Text.lower (Text.trimmed " Mock ") = "mock" := by decide +kernel
      have hpolicy : checkPolicy [("severity_limits",
          .table [("Major", .int 3), ("MAJOR", .int 5)])] = .ok s.policy := by decide +kernel
      have hrest : checkRest raw " Mock " (some "g.md") s.prompts none none = .ok s := by
        refine bind_eq_ok_iff.2 ⟨.summary, checkFormat_name _ .summary, ?_⟩
        refine bind_eq_ok_iff.2 ⟨[], rfl, ?_⟩
        refine bind_eq_ok_iff.2 ⟨[], rfl, ?_⟩
        refine bind_eq_ok_iff.2 ⟨.default, checkContext_entries .default, ?_⟩
        refine bind_eq_ok_iff.2 ⟨_, rfl, ?_⟩
        refine bind_eq_ok_iff.2 ⟨s.policy, hpolicy, ?_⟩
        refine bind_eq_ok_iff.2 ⟨[], rfl, ?_⟩
        refine bind_eq_ok_iff.2 ⟨⟨[], []⟩, rfl, ?_⟩
        refine bind_eq_ok_iff.2 ⟨[], rfl, ?_⟩
        refine bind_eq_ok_iff.2 ⟨.default, checkLogging_entries .default, ?_⟩
        rw [hreviewer]
        rfl
      rw [run_liftM, hrest]
  exact ⟨s, h, hplain, (read_again h hplain).1, rfl⟩

end PatchReview
