import PatchReview.Proofs.Files
import PatchReview.Proofs.RuleSet.Parts
import PatchReview.RuleSet

/-! What becomes of good and of bad rules.

A table in a file comes to a rule, is passed over with one event or stops the loading
(`settles_goodRules_one`), and a file comes to its rules, is passed over with one event or stops the
loading (`settles_ofFile`). So only a bad rule among those that are given fails as such, and nothing
in a file does (`ofEntriesWith_isolates`). A rule whose pattern is out of bounds is no bad rule in
this sense: wherever it stands, it stops the loading (`IsUncaught`). -/
namespace PatchReview.RuleSet

open Logged Outcome Text

/-! ### Items of a table -/

/-- The items of a list in a table; what does not count as given is an empty one. -/
def itemsAt? (name : String) (raw : Entries) : Option (List Value) :=
  match raw.get? name with
  | some (.list items) => some items
  | some v => if v.isFilled then none else some []
  | none => some []

theorem itemsAt?_eq_some {name : String} {raw : Entries} {items : List Value}
    (h : itemsAt? name raw = some items) :
    raw.get? name = some (.list items) ∨
      items = [] ∧ ∀ v, raw.get? name = some v → v.isFilled = false := by
  unfold itemsAt? at h
  split at h
  · rename_i hget
    exact .inl (Option.some.inj h ▸ hget)
  · rename_i v _ hget
    cases hv : v.isFilled with
    | true => simp [hv] at h
    | false =>
      refine .inr ⟨by simpa [hv, eq_comm] using h, fun other hother => ?_⟩
      rw [← Option.some.inj (hget.symm.trans hother), hv]
  · rename_i hget
    exact .inr ⟨(Option.some.inj h).symm, fun v hv => absurd (hget.symm.trans hv) (by simp)⟩

theorem patterns_eq_of_itemsAt? {raw : Entries} {items : List Value}
    (h : itemsAt? "include" raw = some items) :
    patterns (raw.get? "include") = .ok (patternsIn items) := by
  rcases itemsAt?_eq_some h with hget | ⟨rfl, hnone⟩
  · rw [hget, patterns]
  · cases hget : raw.get? "include" with
    | none => rfl
    | some v =>
      have hv := hnone v hget
      cases v <;> simp_all [patterns, patternsIn, Value.isFilled]

/-! ### Faults that are not looked for -/

/-- What stops the loading of rules without being a fault that is looked for. -/
inductive IsUncaught : Failure → Prop where
  /-- A number is too long to be read or to be written. -/
  | numeral (e : NumeralError) : IsUncaught (.numeral e)
  /-- A pattern asks for both character tables at once. -/
  | clashingTables : IsUncaught .clashingTables
  /-- A pattern repeats something more often than can be counted. -/
  | hugeRepeat : IsUncaught .hugeRepeat
  /-- A pattern or a document is nested too deep. -/
  | tooDeep : IsUncaught .tooDeep
  | jsonTooDeep (table : Bool) : IsUncaught (.jsonTooDeep table)

theorem IsUncaught.ne_settings {e : Failure} (h : IsUncaught e) (cause : SettingsError) :
    e ≠ .settings cause := by
  rintro rfl
  cases h

theorem isUncaught_of_readToml {text : String} :
    ∀ e, readToml text = .error e → IsUncaught e := by
  intro e h
  unfold readToml at h
  split at h <;> simp only [Except.error.injEq, reduceCtorEq] at h <;> subst h
  · exact .numeral _
  · exact .tooDeep

section
variable [StandIns]

theorem isUncaught_of_plainText {v : Value} {e : Failure} (h : v.plainText = .error e) :
    IsUncaught e := by
  unfold Value.plainText at h
  split at h
  · exact absurd h (by simp)
  · exact Except.error.inj h ▸ .numeral _

theorem isUncaught_of_plainOr {default : String} {v : Option Value} {e : Failure}
    (h : Value.plainOr default v = .error e) : IsUncaught e := by
  unfold Value.plainOr at h
  split at h
  · split at h
    · exact isUncaught_of_plainText h
    · exact absurd h (by simp)
  · exact absurd h (by simp)

theorem readPattern_eq_error {id source : String} {e : Failure}
    (h : Rule.readPattern id source = .error e) :
    (∃ cause, e = .settings cause) ∨ IsUncaught e := by
  unfold Rule.readPattern at h
  split at h <;> simp only [Except.error.injEq, reduceCtorEq] at h <;> subst h
  · exact .inr .clashingTables
  · exact .inr .hugeRepeat
  · exact .inr (.numeral _)
  · exact .inr .tooDeep
  · exact .inl ⟨_, rfl⟩

/-- A table that describes no rule is bad, or stops the loading. -/
theorem ofEntries_eq_error {raw : Entries} :
    ∀ e, Rule.ofEntries raw = .error e → (∃ cause, e = .settings cause) ∨ IsUncaught e := by
  have htext (name default : String) (e : Failure)
      (h : Value.plainOr default (raw.get? name) = .error e) :
      (∃ cause, e = .settings cause) ∨ IsUncaught e := .inr (isUncaught_of_plainOr h)
  rw [Rule.ofEntries]
  split
  · refine error_bind (fun e h => .inr (isUncaught_of_plainText h)) fun id e h => ?_
    exact .inl ⟨_, (Except.error.inj h).symm⟩
  · refine error_bind (htext _ _) fun id => ?_
    refine error_bind (htext _ _) fun source => ?_
    refine error_bind (htext _ _) fun severity => ?_
    refine error_bind (htext _ _) fun rationale => ?_
    refine error_bind (htext _ _) fun suggestion => ?_
    refine error_bind (fun e h => ?_) fun globs e h => ?_
    · obtain ⟨v, -, hv⟩ := exists_of_mapM_eq_error h
      exact .inr (isUncaught_of_plainText hv)
    · split at h
      · exact .inl ⟨_, (Except.error.inj h).symm⟩
      · rcases bind_eq_error_iff.1 h with h | ⟨pattern, -, h⟩
        · exact readPattern_eq_error h
        · exact absurd h (by simp [pure, Except.pure])

theorem isUncaught_of_readJson {text : String} :
    ∀ e, readJson text = .error e → IsUncaught e := by
  intro e h
  unfold readJson at h
  split at h <;> simp only [Except.error.injEq, reduceCtorEq] at h <;> subst h
  · exact .numeral _
  · exact .jsonTooDeep _

theorem isUncaught_of_readDocument {suffix text : String} :
    ∀ e, readDocument suffix text = .error e → IsUncaught e := by
  unfold readDocument
  split
  · exact isUncaught_of_readToml
  · split
    · exact isUncaught_of_readJson
    · refine error_bind isUncaught_of_readToml fun document => ?_
      split
      · exact fun e h => absurd h (by simp [pure, Except.pure])
      · exact isUncaught_of_readJson

theorem ofItem_eq_error {item : Value} {e : Failure} (h : ofItem item = .error e) :
    (∃ cause, e = .settings cause) ∨ IsUncaught e := by
  unfold ofItem at h
  split at h
  · exact ofEntries_eq_error e h
  · exact .inl ⟨_, (Except.error.inj h).symm⟩

/-! ### Rules in a file -/

/-- What comes of an item in a file. -/
inductive EndsItem (path : Path) : Value → Part → Prop where
  /-- A good rule. -/
  | rule {raw : Entries} {r : Rule} (h : Rule.ofEntries raw = .ok r) :
      EndsItem path (.table raw) ⟨[r], []⟩
  /-- A bad rule, which is passed over. -/
  | bad {raw : Entries} {cause : SettingsError}
      (h : Rule.ofEntries raw = .error (.settings cause)) :
      EndsItem path (.table raw) ⟨[], [.rulesSkipped path.text (.badRule cause)]⟩
  /-- What is no table is no rule, and is left out. -/
  | noTable {v : Value} (h : ∀ raw, v ≠ .table raw) : EndsItem path v ⟨[], []⟩

/-- Whether an item in a file breaks off: its table describes no rule, but not because it is bad. -/
inductive BreaksItem : Value → Failure → Prop where
  | rule {raw : Entries} {e : Failure} (h : Rule.ofEntries raw = .error e)
      (he : ∀ cause, e ≠ .settings cause) : BreaksItem (.table raw) e

theorem goodRules_cons (path : Path) (item : Value) (rest : List Value) :
    goodRules path (item :: rest) =
      goodRules path [item] >>= fun rules =>
        goodRules path rest >>= fun others => pure (rules ++ others) := by
  cases item with
  | table raw =>
    cases h : Rule.ofEntries raw with
    | ok r => simp [goodRules, h]
    | error e => cases e <;> simp [goodRules, h]
  | _ => simp [goodRules]

theorem settles_goodRules_table (path : Path) (raw : Entries) :
    Settles (goodRules path [.table raw]) (EndsItem path (.table raw))
      (BreaksItem (.table raw)) := by
  cases h : Rule.ofEntries raw with
  | ok r =>
    refine .of_ok (fun j => ?_) (.rule h) (fun part hends => ?_) fun e hbreaks => ?_
    · simp only [goodRules, h, List.append_nil]
      rfl
    · cases hends <;> simp_all
    · cases hbreaks
      simp_all
  | error e =>
    by_cases he : ∃ cause, e = .settings cause
    · obtain ⟨cause, rfl⟩ := he
      refine .of_ok (fun j => ?_) (.bad h) (fun part hends => ?_) fun e hbreaks => ?_
      · simp only [goodRules, h]
        rfl
      · cases hends <;> simp_all
      · cases hbreaks
        simp_all
    · rw [not_exists] at he
      refine .of_error (fun j => ?_) (fun part hends => ?_) (.rule h he) fun other hbreaks => ?_
      · rw [goodRules, h]
        cases e with
        | settings cause => exact absurd rfl (he cause)
        | _ => rfl
      · cases hends with
        | rule hrule => exact absurd (hrule.symm.trans h) (by simp)
        | bad hbad => exact he _ (Except.error.inj (h.symm.trans hbad))
        | noTable hnone => exact hnone raw rfl
      · cases hbreaks
        simp_all

theorem settles_goodRules_one (path : Path) (item : Value) :
    Settles (goodRules path [item]) (EndsItem path item) (BreaksItem item) := by
  by_cases htable : ∃ raw, item = .table raw
  · obtain ⟨raw, rfl⟩ := htable
    exact settles_goodRules_table path raw
  · rw [not_exists] at htable
    refine .of_ok (fun j => ?_) (.noTable htable) (fun part hends => ?_) fun e hbreaks => ?_
    · simp only [goodRules, List.append_nil]
      rfl
    · cases hends <;> simp_all
    · cases hbreaks
      exact htable _ rfl

theorem settles_goodRules (path : Path) (items : List Value) :
    Settles (goodRules path items) (EndsAll (EndsItem path) items)
      fun e => StopsAt (fun item => ∃ part, EndsItem path item part) (BreaksItem · e) items :=
  .sequence (goodRules path [·]) (goodRules path) rfl (goodRules_cons path)
    (settles_goodRules_one path) items

/-! ### Files with rules -/

/-- What a document in a file says. -/
def documentOf (path : Path) (text : String) : Outcome (Option Value) :=
  readDocument (lower path.suffix) text

/-- What comes of a file, given what was read from it. -/
inductive EndsFile (path : Path) : Except FileError String → Part → Prop where
  /-- It cannot be read. -/
  | unreadable {fault : FileError} :
      EndsFile path (.error fault) ⟨[], [.rulesSkipped path.text (.unreadable fault)]⟩
  /-- It is in neither format that it may be in. -/
  | unparseable {text : String} (h : documentOf path text = .ok none) :
      EndsFile path (.ok text) ⟨[], [.rulesSkipped path.text .unparseable]⟩
  /-- There is no list of rules in it. -/
  | noRules {text : String} {v : Value} (h : documentOf path text = .ok (some v))
      (hlist : listed? v = none) :
      EndsFile path (.ok text) ⟨[], [.rulesSkipped path.text .noRules]⟩
  /-- There is one, of which each item comes to something. -/
  | rules {text : String} {v : Value} {items : List Value} {part : Part}
      (h : documentOf path text = .ok (some v)) (hlist : listed? v = some items)
      (hitems : EndsAll (EndsItem path) items part) : EndsFile path (.ok text) part

/-- Why a file breaks off. -/
inductive BreaksFile (path : Path) : Except FileError String → Failure → Prop where
  /-- Reading it as a document does. -/
  | document {text : String} {e : Failure} (h : documentOf path text = .error e) :
      BreaksFile path (.ok text) e
  /-- An item in it does. -/
  | item {text : String} {v : Value} {items : List Value} {e : Failure}
      (h : documentOf path text = .ok (some v)) (hlist : listed? v = some items)
      (hitems : StopsAt (fun item => ∃ part, EndsItem path item part) (BreaksItem · e) items) :
      BreaksFile path (.ok text) e

theorem ofFile_eq_of_document {path : Path} {text : String} {v : Value}
    (h : documentOf path text = .ok (some v)) :
    ofFile path (.ok text) =
      match listed? v with
      | none => record (.rulesSkipped path.text .noRules) >>= fun _ => pure []
      | some items => goodRules path items := by
  rw [documentOf] at h
  rw [ofFile, h]
  rfl

/-- A file in which there is a document. -/
theorem settles_ofFile_document {path : Path} {text : String} {v : Value}
    (h : documentOf path text = .ok (some v)) :
    Settles (ofFile path (.ok text)) (EndsFile path (.ok text)) (BreaksFile path (.ok text)) := by
  rw [ofFile_eq_of_document h]
  cases hlist : listed? v with
  | none =>
    refine .of_ok (fun j => rfl) (.noRules h hlist) (fun part hends => ?_) fun e hbreaks => ?_
    · cases hends <;> simp_all
    · cases hbreaks <;> simp_all
  | some items =>
    refine (settles_goodRules path items).congr (fun part => ⟨fun hends => ?_, .rules h hlist⟩)
      fun e => ⟨fun hbreaks => ?_, .item h hlist⟩
    · cases hends <;> simp_all
    · cases hbreaks <;> simp_all

theorem settles_ofFile (path : Path) (content : Except FileError String) :
    Settles (ofFile path content) (EndsFile path content) (BreaksFile path content) := by
  cases content with
  | error fault =>
    refine .of_ok (fun j => rfl) .unreadable (fun part hends => ?_) fun e hbreaks => ?_
    · cases hends
      rfl
    · cases hbreaks
  | ok text =>
    cases h : documentOf path text with
    | error e =>
      refine .of_error (fun j => ?_) (fun part hends => ?_) (.document h) fun other hbreaks => ?_
      · rw [documentOf] at h
        rw [ofFile, h]
        rfl
      · cases hends <;> simp_all
      · cases hbreaks <;> simp_all
    | ok document =>
      cases document with
      | none =>
        refine .of_ok (fun j => ?_) (.unparseable h) (fun part hends => ?_) fun e hbreaks => ?_
        · rw [documentOf] at h
          rw [ofFile, h]
          rfl
        · cases hends <;> simp_all
        · cases hbreaks <;> simp_all
      | some v => exact settles_ofFile_document h

theorem settles_ofFiles (read : Path → Except FileError String) (paths : List Path) :
    Settles (ofFiles (paths.map fun path => (path, read path)))
      (EndsAll (fun path => EndsFile path (read path)) paths)
      fun e => StopsAt (fun path => ∃ part, EndsFile path (read path) part)
        (fun path => BreaksFile path (read path) e) paths :=
  .sequence (fun path => ofFile path (read path))
    (fun paths => ofFiles (paths.map fun path => (path, read path))) rfl (fun _ _ => rfl)
    (fun path => settles_ofFile path (read path)) paths

theorem given_eq_of_itemsAt? {raw : Entries} {items : List Value}
    (h : itemsAt? "inline" raw = some items) : given (raw.get? "inline") = items.mapM ofItem := by
  rcases itemsAt?_eq_some h with hget | ⟨rfl, hnone⟩
  · rw [hget, given]
  · cases hget : raw.get? "inline" with
    | none => rfl
    | some v =>
      have hv := hnone v hget
      cases v <;> simp_all [given, Value.isFilled, pure, Except.pure]

/-! ### All rules -/

variable (expand : Path → Outcome (List Path)) (read : Path → Except FileError String)
  (base : Option Path) (inline included : List Value)

/-- What comes of loading rules: those that are given, and those in files, which are loaded once
each, in the order in which the patterns name them first. -/
inductive Ends : Part → Prop where
  | intro {rules : List Rule} {found : List (List Path)} {part : Part}
      (hrules : List.Forall₂ (fun item r => ofItem item = .ok r) inline rules)
      (hfound : List.Forall₂ (fun p paths => expand (placed base p) = .ok paths)
        (patternsIn included) found)
      (hfiles : EndsAll (fun path => EndsFile path (read path)) found.flatten.eraseDups part) :
      Ends ⟨rules ++ part.rules, part.events⟩

/-- Why loading rules breaks off. -/
inductive Breaks : Failure → Prop where
  /-- One that is given is bad, or breaks off itself. -/
  | given {e : Failure}
      (h : StopsAt (fun item => ∃ r, ofItem item = .ok r) (ofItem · = .error e) inline) : Breaks e
  /-- It cannot be found out which files a pattern names. -/
  | pattern {rules : List Rule} {e : Failure}
      (hrules : List.Forall₂ (fun item r => ofItem item = .ok r) inline rules)
      (h : StopsAt (fun p => ∃ paths, expand (placed base p) = .ok paths)
        (fun p => expand (placed base p) = .error e) (patternsIn included)) : Breaks e
  /-- A file breaks off. -/
  | file {rules : List Rule} {found : List (List Path)} {e : Failure}
      (hrules : List.Forall₂ (fun item r => ofItem item = .ok r) inline rules)
      (hfound : List.Forall₂ (fun p paths => expand (placed base p) = .ok paths)
        (patternsIn included) found)
      (h : StopsAt (fun path => ∃ part, EndsFile path (read path) part)
        (fun path => BreaksFile path (read path) e) found.flatten.eraseDups) : Breaks e

section
variable {expand read base inline included} {raw : Entries}

theorem ofEntriesWith_eq (hinline : itemsAt? "inline" raw = some inline)
    (hincluded : itemsAt? "include" raw = some included) :
    ofEntriesWith expand read base raw =
      (liftM (inline.mapM ofItem) : Logged (List Rule)) >>= fun rules =>
        ((liftM ((patternsIn included).mapM fun p => expand (placed base p)) :
            Logged (List (List Path))) >>= fun found =>
          ofFiles (found.flatten.eraseDups.map fun path => (path, read path))) >>= fun others =>
        pure (rules ++ others) := by
  rw [ofEntriesWith, given_eq_of_itemsAt? hinline, patterns_eq_of_itemsAt? hincluded]
  refine bind_congr fun rules => ?_
  show (liftM (RuleSet.included expand read base (patternsIn included)) : Logged _) >>= _ = _
  rw [RuleSet.included]
  cases (patternsIn included).mapM fun p => expand (placed base p) with
  | error e => rfl
  | ok found => rfl

theorem settles_ofEntriesWith (hinline : itemsAt? "inline" raw = some inline)
    (hincluded : itemsAt? "include" raw = some included) :
    Settles (ofEntriesWith expand read base raw) (Ends expand read base inline included)
      (Breaks expand read base inline included) := by
  have hgiven := Settles.of_outcome (inline.mapM ofItem)
  have hfiles : Settles ((liftM ((patternsIn included).mapM fun p => expand (placed base p)) :
      Logged (List (List Path))) >>= fun found =>
        ofFiles (found.flatten.eraseDups.map fun path => (path, read path))) _ _ :=
    .liftM_bind fun found => settles_ofFiles read found.flatten.eraseDups
  rw [ofEntriesWith_eq hinline hincluded]
  refine (hgiven.append hfiles).congr (fun part => ⟨fun hends => ?_, fun h => ?_⟩)
    fun e => ⟨fun hbreaks => ?_, fun h => ?_⟩
  · cases hends with
    | intro hrules hfound hfiles =>
      exact ⟨⟨_, []⟩, _, ⟨_, mapM_eq_ok_iff.2 hrules, rfl⟩,
        ⟨_, mapM_eq_ok_iff.2 hfound, hfiles⟩, rfl⟩
  · obtain ⟨p, q, ⟨rules, hrules, rfl⟩, ⟨found, hfound, hfiles⟩, rfl⟩ := h
    exact .intro (mapM_eq_ok_iff.1 hrules) (mapM_eq_ok_iff.1 hfound) hfiles
  · cases hbreaks with
    | given h => exact .inl (mapM_eq_error_iff.2 h)
    | pattern hrules h =>
      exact .inr ⟨⟨_, _, mapM_eq_ok_iff.2 hrules, rfl⟩, .inl (mapM_eq_error_iff.2 h)⟩
    | file hrules hfound h =>
      exact .inr ⟨⟨_, _, mapM_eq_ok_iff.2 hrules, rfl⟩, .inr ⟨_, mapM_eq_ok_iff.2 hfound, h⟩⟩
  · rcases h with h | ⟨⟨p, rules, hrules, -⟩, h | ⟨found, hfound, h⟩⟩
    · exact .given (mapM_eq_error_iff.1 h)
    · exact .pattern (mapM_eq_ok_iff.1 hrules) (mapM_eq_error_iff.1 h)
    · exact .file (mapM_eq_ok_iff.1 hrules) (mapM_eq_ok_iff.1 hfound) h

theorem isUncaught_of_breaksFile {path : Path} {content : Except FileError String} {e : Failure}
    (h : BreaksFile path content e) : IsUncaught e := by
  cases h with
  | document h => exact isUncaught_of_readDocument e h
  | item _ _ hitems =>
    obtain ⟨item, -, hbreaks⟩ := hitems.exists_mem
    cases hbreaks with
    | rule h he => exact (ofEntries_eq_error e h).resolve_left (not_exists.2 he)

theorem exists_ofItem_of_ends {part : Part} (h : Ends expand read base inline included part)
    {item : Value} (hitem : item ∈ inline) : ∃ r, ofItem item = .ok r := by
  cases h with
  | intro hrules _ _ =>
    obtain ⟨r, -, hr⟩ := exists_of_forall₂ hrules.flip hitem
    exact ⟨r, hr⟩

/-- What loading rules breaks off with. -/
theorem Breaks.cases {e : Failure} (h : Breaks expand read base inline included e) :
    StopsAt (fun item => ∃ r, ofItem item = .ok r) (ofItem · = .error e) inline ∨
      (∃ p ∈ patternsIn included, expand (placed base p) = .error e) ∨
        ∃ p ∈ patternsIn included, ∃ paths, expand (placed base p) = .ok paths ∧
          ∃ path ∈ paths, BreaksFile path (read path) e := by
  cases h with
  | given h => exact .inl h
  | pattern _ h => exact .inr (.inl h.exists_mem)
  | file _ hfound h =>
    obtain ⟨path, hpath, hbreaks⟩ := h.exists_mem
    obtain ⟨paths, hpaths, hmem⟩ := List.mem_flatten.1 (List.mem_eraseDups.1 hpath)
    obtain ⟨p, hp, hexpand⟩ := exists_of_forall₂ hfound hpaths
    exact .inr (.inr ⟨p, hp, paths, hexpand, path, hmem, hbreaks⟩)

/-- Loading rules fails as settings do only where a given one is bad. -/
theorem breaks_settings_iff (hexpand : ∀ p cause, expand p ≠ .error (.settings cause))
    (cause : SettingsError) :
    Breaks expand read base inline included (.settings cause) ↔
      StopsAt (fun item => ∃ r, ofItem item = .ok r) (ofItem · = .error (.settings cause))
        inline := by
  refine ⟨fun h => ?_, .given⟩
  rcases h.cases with h | ⟨p, -, h⟩ | ⟨p, -, paths, -, path, -, h⟩
  · exact h
  · exact absurd h (hexpand _ cause)
  · exact absurd rfl ((isUncaught_of_breaksFile h).ne_settings cause)

/-- Whether all that stands against some rules is that one is bad. -/
structure Unbroken (expand : Path → Outcome (List Path)) (read : Path → Except FileError String)
    (base : Option Path) (inline included : List Value) : Prop where
  items : ∀ item ∈ inline, ∀ e, ofItem item = .error e → ∃ cause, e = .settings cause
  patterns : ∀ p ∈ patternsIn included, ∃ paths, expand (placed base p) = .ok paths
  files : ∀ p ∈ patternsIn included, ∀ paths, expand (placed base p) = .ok paths →
    ∀ path ∈ paths, ∀ e, ¬BreaksFile path (read path) e

/-- Then loading them breaks off only where a given one is bad. -/
theorem Unbroken.exists_bad (h : Unbroken expand read base inline included) {e : Failure}
    (hbreaks : Breaks expand read base inline included e) :
    ∃ item ∈ inline, ∃ cause, e = .settings cause ∧ ofItem item = .error (.settings cause) := by
  rcases hbreaks.cases with hstops | ⟨p, hp, hpattern⟩ | ⟨p, hp, paths, hpaths, path, hpath, hfile⟩
  · obtain ⟨item, hitem, he⟩ := hstops.exists_mem
    obtain ⟨cause, rfl⟩ := h.items item hitem e he
    exact ⟨item, hitem, cause, rfl, he⟩
  · obtain ⟨paths, hpaths⟩ := h.patterns p hp
    exact absurd (hpaths.symm.trans hpattern) (by simp)
  · exact absurd hfile (h.files p hp paths hpaths path hpath e)

/-- **Isolation.** Loading rules fails as settings do exactly if a given one is bad and none before
it stops the loading, whatever is in files. There are rules exactly if nothing breaks off, and then
they are those that are given and the good ones in files, with one event for every file and every
rule in a file that is passed over. Besides bad rules that are given, only what is not looked for
stops the loading. -/
theorem ofEntriesWith_isolates (hexpand : ∀ p cause, expand p ≠ .error (.settings cause))
    (hinline : itemsAt? "inline" raw = some inline)
    (hincluded : itemsAt? "include" raw = some included) :
    let result := (ofEntriesWith expand read base raw).result
    (∀ cause, (∃ journal, result = (.error (.settings cause), journal)) ↔
        StopsAt (fun item => ∃ r, ofItem item = .ok r) (ofItem · = .error (.settings cause))
          inline) ∧
      (∀ rules journal, result = (.ok rules, journal) ↔
        Ends expand read base inline included ⟨rules, journal⟩) ∧
      (∀ e, (∃ journal, result = (.error e, journal)) →
        (∃ cause, e = .settings cause) ∨
          (∃ p ∈ patternsIn included, expand (placed base p) = .error e) ∨ IsUncaught e) ∧
      (Unbroken expand read base inline included →
        ((∃ cause journal, result = (.error (.settings cause), journal)) ↔
            ∃ item ∈ inline, ∃ cause, ofItem item = .error (.settings cause)) ∧
          ((∀ item ∈ inline, ∃ r, ofItem item = .ok r) →
            ∃ rules journal, result = (.ok rules, journal))) := by
  intro result
  have hsettles : Settles _ (Ends expand read base inline included) _ :=
    settles_ofEntriesWith hinline hincluded
  have hok (rules : List Rule) (journal : Journal) : result = (.ok rules, journal) ↔
      Ends expand read base inline included ⟨rules, journal⟩ := by
    rw [show result = run _ [] from rfl, hsettles.ok_iff]
    simp
  have herror (e : Failure) : (∃ journal, result = (.error e, journal)) ↔
      Breaks expand read base inline included e := hsettles.error_iff e []
  refine ⟨fun cause => (herror _).trans (breaks_settings_iff hexpand cause), hok,
    fun e he => ?_, fun hunbroken => ?_⟩
  · rcases ((herror e).1 he).cases with h | h | ⟨p, -, paths, -, path, -, h⟩
    · obtain ⟨item, -, hitem⟩ := h.exists_mem
      exact (ofItem_eq_error hitem).imp_right .inr
    · exact .inr (.inl h)
    · exact .inr (.inr (isUncaught_of_breaksFile h))
  · rcases hresult : result with ⟨_ | rules, journal⟩
    · rename_i e
      obtain ⟨item, hitem, cause, rfl, he⟩ :=
        hunbroken.exists_bad ((herror e).1 ⟨journal, hresult⟩)
      refine ⟨⟨fun _ => ⟨item, hitem, cause, he⟩, fun _ => ⟨cause, journal, rfl⟩⟩, fun hall => ?_⟩
      obtain ⟨r, hr⟩ := hall item hitem
      exact absurd (hr.symm.trans he) (by simp)
    · refine ⟨⟨fun h => ?_, fun h => ?_⟩, fun _ => ⟨rules, journal, rfl⟩⟩
      · obtain ⟨cause, journal', h⟩ := h
        exact absurd (Prod.mk.inj h).1 (by simp)
      · obtain ⟨item, hitem, cause, he⟩ := h
        obtain ⟨r, hr⟩ := exists_ofItem_of_ends ((hok rules journal).1 hresult) hitem
        exact absurd (hr.symm.trans he) (by simp)

end

end

/-- A rule for every line with an `a`. -/
def ruleA : Entries := [("id", .text "A"), ("pattern", .text "a")]

/-- Rules of which one is given, and two files of which the second is no text. -/
def withFiles : Entries :=
  [("inline", .list [.table ruleA]), ("include", .list [.text "bad.json", .text "odd.json"])]

/-- A file with a bad rule, `[{}]`, and one that is no text. -/
def badFiles : Files :=
  ⟨["w"], [(["w", "bad.json"], .file [91, 123, 125, 93]), (["w", "odd.json"], .file [255])]⟩

theorem ofEntriesWith_isolates_badFiles :
    letI : StandIns := ⟨.besides []⟩
    (∀ p cause, badFiles.expand p ≠ .error (.settings cause)) ∧
      itemsAt? "inline" withFiles = some [.table ruleA] ∧
      itemsAt? "include" withFiles = some [.text "bad.json", .text "odd.json"] ∧
      ∃ r fault, Rule.ofEntries ruleA = .ok r ∧
        (ofEntries badFiles none withFiles).result =
          (.ok [r], [.rulesSkipped "bad.json" (.badRule .ruleIncomplete),
            .rulesSkipped "odd.json" (.unreadable fault)]) := by
  let _ : StandIns := ⟨.besides []⟩
  have hexpand : ∀ p cause, badFiles.expand p ≠ .error (.settings cause) := by
    intro p cause h
    obtain ⟨fault, hfault⟩ := Files.expand_eq_error _ h
    exact absurd hfault (by simp)
  obtain ⟨r, hr⟩ : ∃ r, Rule.ofEntries ruleA = .ok r := by
    have h : (Rule.ofEntries ruleA).isOk = true := by decide +kernel
    cases hrule : Rule.ofEntries ruleA with
    | ok r => exact ⟨r, rfl⟩
    | error e =>
      rw [hrule] at h
      exact absurd h Bool.false_ne_true
  obtain ⟨fault, hfault⟩ : ∃ fault, badFiles.read (.ofText "odd.json") = .error fault := by
    have h : (badFiles.read (.ofText "odd.json")).isOk = false := by decide +kernel
    cases hread : badFiles.read (.ofText "odd.json") with
    | ok text =>
      rw [hread] at h
      exact absurd h.symm Bool.false_ne_true
    | error fault => exact ⟨fault, rfl⟩
  have hbad : badFiles.read (.ofText "bad.json") = .ok "[\x7b\x7d]" := by decide +kernel
  have hdocument : documentOf (.ofText "bad.json") "[\x7b\x7d]" =
      .ok (some (.list [.table []])) := by rfl
  have hitem : EndsItem (.ofText "bad.json") (.table [])
      ⟨[], [.rulesSkipped "bad.json" (.badRule .ruleIncomplete)]⟩ := .bad rfl
  have hrules : List.Forall₂ (fun item r => ofItem item = .ok r) [.table ruleA] [r] :=
    .cons hr .nil
  have hfound : List.Forall₂ (fun p paths => badFiles.expand (placed none p) = .ok paths)
      (patternsIn [.text "bad.json", .text "odd.json"])
      [[.ofText "bad.json"], [.ofText "odd.json"]] :=
    .cons (by decide +kernel) (.cons (by decide +kernel) .nil)
  have hends : Ends badFiles.expand badFiles.read none [.table ruleA]
      [.text "bad.json", .text "odd.json"]
      ⟨[r], [.rulesSkipped "bad.json" (.badRule .ruleIncomplete),
        .rulesSkipped "odd.json" (.unreadable fault)]⟩ := by
    have hfirst : EndsFile (.ofText "bad.json") (badFiles.read (.ofText "bad.json"))
        (joined [⟨[], [.rulesSkipped "bad.json" (.badRule .ruleIncomplete)]⟩]) := by
      rw [hbad]
      exact .rules hdocument rfl ⟨_, .cons hitem .nil, rfl⟩
    have hsecond : EndsFile (.ofText "odd.json") (badFiles.read (.ofText "odd.json"))
        ⟨[], [.rulesSkipped "odd.json" (.unreadable fault)]⟩ := by
      rw [hfault]
      exact .unreadable
    have hpaths : List.Forall₂ (fun path => EndsFile path (badFiles.read path))
        [.ofText "bad.json", .ofText "odd.json"] _ := .cons hfirst (.cons hsecond .nil)
    exact .intro hrules hfound ⟨_, hpaths, rfl⟩
  refine ⟨hexpand, rfl, rfl, r, fault, hr, ?_⟩
  exact ((ofEntriesWith_isolates hexpand rfl rfl).2.1 _ _).2 hends

end PatchReview.RuleSet
