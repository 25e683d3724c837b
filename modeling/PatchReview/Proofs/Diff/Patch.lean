import PatchReview.Proofs.Diff.Reading
import PatchReview.Proofs.Text.Lines
import PatchReview.Proofs.Text.Numeral

/-! Patches, written and read back.

A patch says, file by file and hunk by hunk, which lines stay, which go and which come. Its text
is laid out as version control lays it out, and its added lines, each with the number that the
lines before it in the hunk leave it, are what reading the text gives back
(`ofDiff_text`), unless an added line reads as a target header. Such a line is taken for
one, whatever the hunk it stands in. -/
namespace PatchReview.Diff

open Text

/-- A text that can stand between two line breaks. -/
abbrev Line := { s : List Char // IsLine s }

/-- A line of a hunk: it stays, it goes or it comes. -/
inductive BodyLine where
  | context (s : Line)
  | deleted (s : Line)
  | added (s : Line)

namespace BodyLine

/-- The line behind the mark of its kind. -/
def text : BodyLine → List Char
  | context s => ' ' :: s
  | deleted s => '-' :: s
  | added s => '+' :: s

def added? : BodyLine → Option Line
  | added s => some s
  | _ => none

end BodyLine

/-- A count as a hunk header has it: behind a comma, if it is given at all. -/
def countText : Option Nat → List Char
  | none => []
  | some n => ',' :: Nat.toDigits 10 n

structure Hunk where
  /-- Where the hunk starts before the change, and how long it is there. -/
  source : Nat
  sourceCount : Option Nat
  /-- Where the hunk starts after the change, and how long it is there. -/
  start : Nat
  count : Option Nat
  /-- What stands behind the second mark of the header. -/
  heading : Line
  body : List BodyLine

namespace Hunk

def header (h : Hunk) : List Char :=
  "@@ -".toList ++ (Nat.toDigits 10 h.source ++ (countText h.sourceCount ++ (" +".toList ++
    (Nat.toDigits 10 h.start ++ (countText h.count ++ (" @@".toList ++ h.heading.1))))))

def lines (h : Hunk) : List (List Char) := h.header :: h.body.map BodyLine.text

/-- The lines that the hunk adds. -/
def added (h : Hunk) : List Line := h.body.filterMap BodyLine.added?

/-- The added lines that are recorded of some, the first of which has the number `n`: all but
those that go on with two plus signs. -/
def recordedFrom (n : Nat) (added : List Line) : List AddedLine :=
  (added.zipIdx n).filterMap fun (s, number) =>
    if startsWith ['+', '+'] s.1 then none else some ⟨number, String.ofList s.1⟩

/-- The added lines that are recorded, each with the start of the hunk and the number of added
lines before it. -/
def recorded (h : Hunk) : List AddedLine := recordedFrom h.start h.added

end Hunk

/-- The hunks of one file. -/
structure FilePatch where
  path : Line
  hunks : List Hunk
  path_ne_nil : path.1 ≠ []
  space_notMem : ' ' ∉ path.1

namespace FilePatch

def lines (f : FilePatch) : List (List Char) :=
  ("diff --git a/".toList ++ f.path.1 ++ " b/".toList ++ f.path.1) ::
    ("--- a/".toList ++ f.path.1) :: ("+++ b/".toList ++ f.path.1) :: f.hunks.flatMap Hunk.lines

def name (f : FilePatch) : String := String.ofList f.path.1

def recorded (f : FilePatch) : List AddedLine := f.hunks.flatMap Hunk.recorded

end FilePatch

/-- Files with their hunks, no two of one path. -/
structure Patch where
  files : List FilePatch
  nodup_names : (files.map FilePatch.name).Nodup

namespace Patch

def lines (d : Patch) : List (List Char) := d.files.flatMap FilePatch.lines

/-- The patch as version control lays it out. -/
def text (d : Patch) : String := String.ofList (closedLines d.lines)

def hunks (d : Patch) : List Hunk := d.files.flatMap FilePatch.hunks

/-- The lines that the patch adds. -/
def added (d : Patch) : List Line := d.hunks.flatMap Hunk.added

/-- The added lines of each file. -/
def recorded (d : Patch) : AddedLines := d.files.map fun f => (f.name, f.recorded)

end Patch

/-- Behind the mark of an added line, this reads as a target header. -/
def NamesTarget (s : Line) : Prop :=
  ∃ w path, IsBlanks w ∧ path ≠ [] ∧ s.1 = '+' :: '+' :: (w ++ 'b' :: '/' :: path)

theorem targetPath?_added_eq_none_iff (s : Line) :
    targetPath? ('+' :: s.1) = none ↔ ¬NamesTarget s := by
  rw [Option.eq_none_iff_forall_ne_some]
  constructor
  · rintro h ⟨w, path, hw, hp, hs⟩
    refine h path ((targetPath?_eq_some_iff _ _).2 ?_)
    rw [hs]
    exact .mk hw hp
  · intro h path hpath
    rw [targetPath?_eq_some_iff] at hpath
    generalize hline : '+' :: s.1 = line at hpath
    obtain ⟨hw, hp⟩ := hpath
    exact h ⟨_, _, hw, hp, (List.cons.inj hline).2⟩

/-! ### Headers -/

theorem isCount_countText (count : Option Nat) : IsCount (countText count) := by
  cases count with
  | none => exact .left
  | some n => exact .given (isNumber_toDigits n)

theorem hunkStart?_header (h : Hunk) : hunkStart? h.header = some (Nat.toDigits 10 h.start) := by
  have hblank : IsBlanks [' '] := ⟨List.cons_ne_nil _ _, by decide⟩
  rw [hunkStart?_eq_some_iff]
  exact .mk hblank (isNumber_toDigits h.source) (isCount_countText h.sourceCount) hblank
    (isNumber_toDigits h.start) (isCount_countText h.count) hblank

theorem targetPath?_path (f : FilePatch) :
    targetPath? ("+++ b/".toList ++ f.path.1) = some f.path.1 := by
  have hblank : IsBlanks [' '] := ⟨List.cons_ne_nil _ _, by decide⟩
  rw [targetPath?_eq_some_iff]
  exact .mk hblank f.path_ne_nil

/-! ### What the lines of a patch note -/

open AddedLines (Note Place gather extend)

/-- Each line of a file on its own. -/
def singles (path : String) (lines : List AddedLine) : List Note :=
  lines.map fun line => (path, [line])

theorem recordedFrom_cons (n : Nat) (s : Line) (added : List Line) :
    Hunk.recordedFrom n (s :: added) =
      (if startsWith ['+', '+'] s.1 then [] else [⟨n, String.ofList s.1⟩]) ++
        Hunk.recordedFrom (n + 1) added := by
  by_cases h : startsWith ['+', '+'] s.1 = true <;>
    simp [Hunk.recordedFrom, List.zipIdx_cons, h]

/-- The body of a hunk notes its recorded lines, and reading stays with the file. -/
theorem notes_body (path : String) (n : Nat) (body : List BodyLine)
    (h : ∀ s ∈ body.filterMap BodyLine.added?, ¬NamesTarget s) :
    Place.notes ⟨some path, some n⟩ (body.map BodyLine.text) =
        singles path (Hunk.recordedFrom n (body.filterMap BodyLine.added?)) ∧
      ∃ next, Place.run ⟨some path, some n⟩ (body.map BodyLine.text) = ⟨some path, next⟩ := by
  induction body generalizing n with
  | nil => exact ⟨rfl, some n, rfl⟩
  | cons line body ih =>
    rw [List.map_cons]
    cases line with
    | context s =>
      have hidle : Place.IsIdle (' ' :: s.1) := Place.isIdle_cons (by decide) (by decide) s.1
      simp only [BodyLine.text, Place.notes_cons_of_idle hidle, Place.run_cons_of_idle hidle]
      exact ih n h
    | deleted s =>
      have hidle : Place.IsIdle ('-' :: s.1) := Place.isIdle_cons (by decide) (by decide) s.1
      simp only [BodyLine.text, Place.notes_cons_of_idle hidle, Place.run_cons_of_idle hidle]
      exact ih n h
    | added s =>
      have htarget := (targetPath?_added_eq_none_iff s).2 (h s List.mem_cons_self)
      have hafter := Place.after_added htarget ⟨some path, some (n : Int)⟩
      have hrest := ih (n + 1) fun t ht => h t (List.mem_cons_of_mem _ ht)
      have hadded : List.filterMap BodyLine.added? (.added s :: body) =
          s :: body.filterMap BodyLine.added? := rfl
      constructor
      · rw [hadded, recordedFrom_cons, singles, List.map_append, BodyLine.text, Place.notes, hafter,
          Place.note?_added htarget]
        refine congrArg₂ (· ++ ·) ?_ hrest.1
        split <;> rfl
      · obtain ⟨next, hnext⟩ := hrest.2
        refine ⟨next, ?_⟩
        rw [BodyLine.text, Place.run, List.foldl_cons, hafter]
        exact hnext

theorem after_header (p : Place) (hunk : Hunk) :
    p.after hunk.header = { p with next := some (hunk.start : Int) } := by
  rw [Place.after_of_hunk (hunkStart?_header hunk), digitsValue_toDigits]

/-- The header of a hunk only sets the number of the next added line. -/
theorem notes_hunk_lines (p : Place) (hunk : Hunk) :
    p.notes hunk.lines = Place.notes { p with next := some (hunk.start : Int) }
      (hunk.body.map BodyLine.text) := by
  rw [Hunk.lines, Place.notes, Place.note?_of_hunk (hunkStart?_header hunk), after_header]
  rfl

theorem notes_hunk (path : String) (next : Option Int) (hunk : Hunk)
    (h : ∀ s ∈ hunk.added, ¬NamesTarget s) :
    Place.notes ⟨some path, next⟩ hunk.lines = singles path hunk.recorded ∧
      ∃ next', Place.run ⟨some path, next⟩ hunk.lines = ⟨some path, next'⟩ := by
  obtain ⟨hnotes, next', hplace⟩ := notes_body path hunk.start hunk.body h
  constructor
  · rw [notes_hunk_lines]
    exact hnotes
  · refine ⟨next', ?_⟩
    rw [Hunk.lines, Place.run, List.foldl_cons, after_header]
    exact hplace

theorem notes_hunks (path : String) (next : Option Int) (hunks : List Hunk)
    (h : ∀ s ∈ hunks.flatMap Hunk.added, ¬NamesTarget s) :
    Place.notes ⟨some path, next⟩ (hunks.flatMap Hunk.lines) =
      singles path (hunks.flatMap Hunk.recorded) := by
  induction hunks generalizing next with
  | nil => rfl
  | cons hunk hunks ih =>
    simp only [List.flatMap_cons, List.mem_append] at h ⊢
    obtain ⟨hnotes, next', hplace⟩ := notes_hunk path next hunk fun s hs => h s (.inl hs)
    rw [Place.notes_append, hnotes, hplace, ih _ fun s hs => h s (.inr hs), singles, singles,
      singles, List.map_append]

/-- Wherever reading stands before a file, the file notes its name, and its hunks are read as
its own. -/
theorem notes_file_lines (p : Place) (f : FilePatch) :
    p.notes f.lines =
      (f.name, []) :: Place.notes ⟨some f.name, none⟩ (f.hunks.flatMap Hunk.lines) := by
  have hgit : Place.IsIdle ("diff --git a/".toList ++ f.path.1 ++ " b/".toList ++ f.path.1) :=
    Place.isIdle_cons (c := 'd') (by decide) (by decide) _
  have hsource : Place.IsIdle ("--- a/".toList ++ f.path.1) :=
    Place.isIdle_cons (c := '-') (by decide) (by decide) _
  rw [FilePatch.lines, Place.notes_cons_of_idle hgit, Place.notes_cons_of_idle hsource, Place.notes,
    Place.note?_of_target (targetPath?_path f), Place.after_of_target (targetPath?_path f)]
  rfl

theorem notes_file (p : Place) (f : FilePatch)
    (h : ∀ s ∈ f.hunks.flatMap Hunk.added, ¬NamesTarget s) :
    p.notes f.lines = (f.name, []) :: singles f.name f.recorded := by
  rw [notes_file_lines, notes_hunks _ _ _ h, FilePatch.recorded]

section
variable {α : Type} {lines : α → List (List Char)} {name : α → String}
  {recorded : α → List AddedLine}

/-- Files that note their names and their recorded lines wherever they stand. -/
theorem notes_flatMap {files : List α}
    (h : ∀ f ∈ files, ∀ p : Place,
      p.notes (lines f) = (name f, []) :: singles (name f) (recorded f))
    (p : Place) :
    p.notes (files.flatMap lines) =
      files.flatMap fun f => (name f, []) :: singles (name f) (recorded f) := by
  induction files generalizing p with
  | nil => rfl
  | cons f files ih =>
    rw [List.flatMap_cons, List.flatMap_cons, Place.notes_append, h f List.mem_cons_self,
      ih fun g hg => h g (List.mem_cons_of_mem _ hg)]

/-- A file's name and its lines one by one come to the same as all its lines at once. -/
theorem foldl_extend_singles (files : AddedLines) (path : String) (lines : List AddedLine) :
    (singles path lines).foldl extend (extend files (path, [])) = extend files (path, lines) := by
  induction lines using List.reverseRecOn with
  | nil => rfl
  | append_singleton lines line ih =>
    rw [singles, List.map_append, List.foldl_append]
    show extend ((singles path lines).foldl extend _) (path, [line]) = _
    rw [ih, AddedLines.extend_extend_self]

theorem gather_files (name : α → String) (recorded : α → List AddedLine) (files : List α) :
    gather (files.flatMap fun f => (name f, []) :: singles (name f) (recorded f)) =
      gather (files.map fun f => (name f, recorded f)) := by
  induction files using List.reverseRecOn with
  | nil => rfl
  | append_singleton files f ih =>
    rw [List.flatMap_append, List.map_append, AddedLines.gather_append, ih, List.flatMap_singleton,
      List.foldl_cons, foldl_extend_singles]
    exact (AddedLines.gather_concat _ _).symm

/-- Files of different names are read as they are. -/
theorem ofLines_flatMap {files : List α}
    (h : ∀ f ∈ files, ∀ p : Place,
      p.notes (lines f) = (name f, []) :: singles (name f) (recorded f))
    (hnodup : (files.map name).Nodup) :
    AddedLines.ofLines (files.flatMap lines ++ [[]]) =
      files.map fun f => (name f, recorded f) := by
  have hkeys : (Keyed.keys (files.map fun f => (name f, recorded f))).Nodup := by
    simpa [Keyed.keys, Function.comp_def] using hnodup
  rw [AddedLines.ofLines_eq_gather, Place.notes_append_nil, notes_flatMap h, gather_files]
  exact AddedLines.gather_of_nodup hkeys

end

theorem ofLines_lines (d : Patch) (h : ∀ s ∈ d.added, ¬NamesTarget s) :
    AddedLines.ofLines (d.lines ++ [[]]) = d.recorded := by
  refine ofLines_flatMap (fun f hf p => notes_file p f fun s hs => h s ?_) d.nodup_names
  obtain ⟨hunk, hhunk, hmem⟩ := List.mem_flatMap.1 hs
  exact List.mem_flatMap.2 ⟨hunk, List.mem_flatMap.2 ⟨f, hf, hhunk⟩, hmem⟩

/-! ### The text of a patch -/

theorem newline_notMem_countText (count : Option Nat) : '\n' ∉ countText count := by
  cases count with
  | none => exact List.not_mem_nil
  | some n =>
    rw [countText, List.mem_cons, not_or]
    exact ⟨by decide, newline_notMem_toDigits n⟩

theorem isLine_header (h : Hunk) : IsLine h.header := by
  have hend : IsLine ('@' :: h.heading.1) := h.heading.2.cons (by decide) (by decide)
  have hheader : h.header = ("@@ -".toList ++ (Nat.toDigits 10 h.source ++
      (countText h.sourceCount ++ (" +".toList ++ (Nat.toDigits 10 h.start ++
        (countText h.count ++ " @".toList)))))) ++ '@' :: h.heading.1 := by
    simp [Hunk.header]
  rw [hheader]
  refine hend.append ?_ (List.cons_ne_nil _ _)
  simp only [List.mem_append, not_or]
  exact ⟨by decide, newline_notMem_toDigits _, newline_notMem_countText _, by decide,
    newline_notMem_toDigits _, newline_notMem_countText _, by decide⟩

theorem isLine_text (line : BodyLine) : IsLine line.text := by
  cases line with
  | context s => exact s.2.cons (by decide) (by decide)
  | deleted s => exact s.2.cons (by decide) (by decide)
  | added s => exact s.2.cons (by decide) (by decide)

theorem hunkStart?_text (line : BodyLine) : hunkStart? line.text = none := by
  cases line with
  | context s => exact hunkStart?_cons_of_ne (by decide) s.1
  | deleted s => exact hunkStart?_cons_of_ne (by decide) s.1
  | added s => exact hunkStart?_cons_of_ne (by decide) s.1

/-- The lines of some hunks are lines, and the hunk headers among them are those of the hunks. -/
theorem of_mem_hunk_lines {hunks : List Hunk} {line : List Char}
    (h : line ∈ hunks.flatMap Hunk.lines) :
    IsLine line ∧ ∀ digits, hunkStart? line = some digits →
      ∃ hunk ∈ hunks, digits = Nat.toDigits 10 hunk.start := by
  simp only [List.mem_flatMap, Hunk.lines, List.mem_cons, List.mem_map] at h
  rcases h with ⟨hunk, hmem, rfl | ⟨body, _, rfl⟩⟩
  · refine ⟨isLine_header hunk, fun digits hd => ⟨hunk, hmem, ?_⟩⟩
    rw [hunkStart?_header] at hd
    exact (Option.some.inj hd).symm
  · refine ⟨isLine_text body, fun digits hd => ?_⟩
    rw [hunkStart?_text] at hd
    exact absurd hd (Option.some_ne_none _).symm

theorem isLine_path (f : FilePatch) {front : List Char} (h : '\n' ∉ front) :
    IsLine (front ++ f.path.1) := f.path.2.append h f.path_ne_nil

/-- The lines of a file are lines, and its hunk headers are those of its hunks. -/
theorem of_mem_lines {f : FilePatch} {line : List Char} (h : line ∈ f.lines) :
    IsLine line ∧ ∀ digits, hunkStart? line = some digits →
      ∃ hunk ∈ f.hunks, digits = Nat.toDigits 10 hunk.start := by
  have other {line : List Char} (hline : IsLine line) (hn : hunkStart? line = none) :
      IsLine line ∧ ∀ digits, hunkStart? line = some digits →
        ∃ hunk ∈ f.hunks, digits = Nat.toDigits 10 hunk.start := by
    refine ⟨hline, fun digits hd => ?_⟩
    rw [hn] at hd
    exact absurd hd (Option.some_ne_none _).symm
  simp only [FilePatch.lines, List.mem_cons] at h
  rcases h with rfl | rfl | rfl | h
  · refine other (isLine_path f ?_) (hunkStart?_cons_of_ne (c := 'd') (by decide) _)
    simp only [List.mem_append, not_or]
    exact ⟨⟨by decide, f.path.2.newline_notMem⟩, by decide⟩
  · exact other (isLine_path f (by decide)) (hunkStart?_cons_of_ne (c := '-') (by decide) _)
  · exact other (isLine_path f (by decide)) (hunkStart?_cons_of_ne (c := '+') (by decide) _)
  · exact of_mem_hunk_lines h

theorem splitLines_text (d : Patch) : splitLines d.text.toList = d.lines ++ [[]] := by
  rw [Patch.text, String.toList_ofList]
  refine splitLines_closed fun line hl => ?_
  obtain ⟨f, _, hline⟩ := List.mem_flatMap.1 hl
  exact (of_mem_lines hline).1

/-- Reading lines whose hunk headers are those of some hunks comes to an end exactly if none of
these starts at a number with too many digits. -/
theorem oversizedStart?_hunks_eq_none_iff {lines : List (List Char)} {hunks : List Hunk}
    (hlines : ∀ line ∈ lines, ∀ digits, hunkStart? line = some digits →
      ∃ hunk ∈ hunks, digits = Nat.toDigits 10 hunk.start)
    (hhunks : ∀ hunk ∈ hunks, hunk.header ∈ lines) :
    AddedLines.oversizedStart? (lines ++ [[]]) = none ↔
      ∀ hunk ∈ hunks, (Nat.toDigits 10 hunk.start).length ≤ digitLimit := by
  rw [AddedLines.oversizedStart?_eq_none_iff]
  constructor
  · intro h hunk hmem
    exact h hunk.header (List.mem_append_left _ (hhunks hunk hmem)) _ (hunkStart?_header hunk)
  · intro h line hl digits hd
    rcases List.mem_append.1 hl with hl | hl
    · obtain ⟨hunk, hmem, rfl⟩ := hlines line hl digits hd
      exact h hunk hmem
    · obtain rfl := List.mem_singleton.1 hl
      rw [Place.isIdle_nil.2.1] at hd
      exact absurd hd (Option.some_ne_none _).symm

theorem oversizedStart?_lines_eq_none_iff (d : Patch) :
    AddedLines.oversizedStart? (d.lines ++ [[]]) = none ↔
      ∀ hunk ∈ d.hunks, (Nat.toDigits 10 hunk.start).length ≤ digitLimit := by
  refine oversizedStart?_hunks_eq_none_iff (fun line hl digits hd => ?_) fun hunk hmem => ?_
  · obtain ⟨f, hf, hline⟩ := List.mem_flatMap.1 hl
    obtain ⟨hunk, hmem, hdigits⟩ := (of_mem_lines hline).2 digits hd
    exact ⟨hunk, List.mem_flatMap.2 ⟨f, hf, hmem⟩, hdigits⟩
  · obtain ⟨f, hf, hhunk⟩ := List.mem_flatMap.1 hmem
    refine List.mem_flatMap.2 ⟨f, hf, ?_⟩
    simp only [FilePatch.lines, List.mem_cons, List.mem_flatMap]
    exact .inr (.inr (.inr ⟨hunk, hhunk, List.mem_cons_self⟩))

/-! ### Lines that are taken for target headers -/

theorem mem_lines_of_mem_added {d : Patch} {s : Line} (h : s ∈ d.added) : '+' :: s.1 ∈ d.lines := by
  obtain ⟨hunk, hhunk, hs⟩ := List.mem_flatMap.1 h
  obtain ⟨f, hf, hmem⟩ := List.mem_flatMap.1 hhunk
  obtain ⟨line, hline, hadded⟩ := List.mem_filterMap.1 hs
  obtain rfl : line = .added s := by
    cases line with
    | added t => exact congrArg BodyLine.added (Option.some.inj hadded)
    | context t => exact absurd hadded (Option.some_ne_none s).symm
    | deleted t => exact absurd hadded (Option.some_ne_none s).symm
  refine List.mem_flatMap.2 ⟨f, hf, ?_⟩
  simp only [FilePatch.lines, List.mem_cons, List.mem_flatMap]
  exact .inr (.inr (.inr ⟨hunk, hmem, List.mem_cons_of_mem _ (List.mem_map_of_mem hline)⟩))

/-- A line that names a target beside the files of a patch names another file. -/
theorem ofLines_lines_ne {d : Patch} {s : Line} (hs : s ∈ d.added) {path : List Char}
    (hpath : targetPath? ('+' :: s.1) = some path)
    (hother : String.ofList path ∉ d.files.map FilePatch.name) :
    AddedLines.ofLines (d.lines ++ [[]]) ≠ d.recorded := by
  intro hread
  have hline := List.mem_append_left [[]] (mem_lines_of_mem_added hs)
  have hkey := AddedLines.mem_keys_gather (Place.mem_notes_of_target hline hpath Place.start)
  rw [← AddedLines.ofLines_eq_gather, hread] at hkey
  refine hother ?_
  simpa [Keyed.keys, Patch.recorded, Function.comp_def] using hkey

/-- One file with one hunk, in which all lines are new. -/
def Patch.adding (name : Char) (h : IsLine [name] ∧ name ≠ ' ') (lines : List Line) : Patch where
  files := [{
    path := ⟨[name], h.1⟩
    hunks := [⟨0, some 0, 1, none, ⟨[], isLine_nil⟩, lines.map .added⟩]
    path_ne_nil := List.cons_ne_nil _ _
    space_notMem := by simpa using h.2.symm }]
  nodup_names := List.nodup_singleton _

theorem added_adding (name : Char) (h : IsLine [name] ∧ name ≠ ' ') (lines : List Line) :
    (Patch.adding name h lines).added = lines := by
  simp [Patch.added, Patch.hunks, Patch.adding, Hunk.added, List.filterMap_map, Function.comp_def,
    BodyLine.added?]

/-- Lines among which one reads as a target header are misread in some patch. -/
theorem exists_ofLines_lines_ne {lines : List Line} {s : Line} (hs : s ∈ lines)
    (htarget : NamesTarget s) :
    ∃ d : Patch, d.added = lines ∧ AddedLines.ofLines (d.lines ++ [[]]) ≠ d.recorded := by
  obtain ⟨path, hpath⟩ : ∃ path, targetPath? ('+' :: s.1) = some path := by
    rw [← Option.ne_none_iff_exists']
    exact fun hnone => (targetPath?_added_eq_none_iff s).1 hnone htarget
  have hname (name : Char) (h : IsLine [name] ∧ name ≠ ' ') (hne : path ≠ [name]) :
      ∃ d : Patch, d.added = lines ∧ AddedLines.ofLines (d.lines ++ [[]]) ≠ d.recorded := by
    have hadded := added_adding name h lines
    refine ⟨Patch.adding name h lines, hadded,
      ofLines_lines_ne (hadded.symm ▸ hs) hpath fun hmem => ?_⟩
    exact hne (String.ofList_injective (List.mem_singleton.1 hmem))
  -- one of two names is not the one that the line names
  by_cases hf : path = ['f']
  · exact hname 'g' ⟨⟨by decide, by decide⟩, by decide⟩ (by rw [hf]; decide)
  · exact hname 'f' ⟨⟨by decide, by decide⟩, by decide⟩ hf

/-- Patches that add certain lines are read back, their starts taken at their values and refused
only for too many digits, exactly if none of the lines reads as a target header. -/
theorem ofDiff_text (lines : List Line) :
    (∀ d : Patch, d.added = lines →
      AddedLines.ofLines (splitLines d.text.toList) = d.recorded ∧
        (AddedLines.ofDiff d.text = .ok d.recorded ↔
          ∀ hunk ∈ d.hunks, (Nat.toDigits 10 hunk.start).length ≤ digitLimit)) ↔
      ∀ s ∈ lines, ¬NamesTarget s := by
  constructor
  · intro h s hs htarget
    obtain ⟨d, hadded, hne⟩ := exists_ofLines_lines_ne hs htarget
    have hread := (h d hadded).1
    rw [splitLines_text] at hread
    exact hne hread
  · rintro h d rfl
    have hlines := ofLines_lines d h
    rw [AddedLines.ofDiff, splitLines_text, ← oversizedStart?_lines_eq_none_iff]
    refine ⟨hlines, ?_⟩
    cases AddedLines.oversizedStart? (d.lines ++ [[]]) with
    | none => simp [hlines]
    | some digits => simp

/-- Two files. The first has a line that comes with three plus signs in front, and lines that stay
and go that look like headers; the other one is new. -/
def Patch.twoFiles : Patch where
  files := [
    { path := ⟨"f".toList, by decide, by decide⟩
      hunks := [
        ⟨1, some 3, 1, some 4, ⟨" def f".toList, by decide, by decide⟩, [
          .context ⟨"a".toList, by decide, by decide⟩,
          .deleted ⟨"-- a/x".toList, by decide, by decide⟩,
          .added ⟨"++ a/y".toList, by decide, by decide⟩,
          .added ⟨"b".toList, by decide, by decide⟩,
          .context ⟨"+++ b/z".toList, by decide, by decide⟩]⟩,
        ⟨10, none, 11, none, ⟨[], isLine_nil⟩, [
          .deleted ⟨"c".toList, by decide, by decide⟩,
          .added ⟨"@@ -1 +1 @@".toList, by decide, by decide⟩]⟩]
      path_ne_nil := by decide
      space_notMem := by decide },
    { path := ⟨"dir/g".toList, by decide, by decide⟩
      hunks := [
        ⟨0, some 0, 1, some 2, ⟨[], isLine_nil⟩, [
          .added ⟨"d".toList, by decide, by decide⟩,
          .added ⟨"diff --git a/f b/h".toList, by decide, by decide⟩]⟩]
      path_ne_nil := by decide
      space_notMem := by decide }]
  nodup_names := by decide

theorem ofDiff_text_twoFiles : AddedLines.ofDiff Patch.twoFiles.text =
    .ok [("f", [⟨2, "b"⟩, ⟨11, "@@ -1 +1 @@"⟩]), ("dir/g", [⟨1, "d"⟩, ⟨2, "diff --git a/f b/h"⟩])] := by
  have hplain : ∀ s ∈ Patch.twoFiles.added, ¬NamesTarget s := by
    have hnone : ∀ s ∈ Patch.twoFiles.added, targetPath? ('+' :: s.1) = none := by decide
    exact fun s hs => (targetPath?_added_eq_none_iff s).1 (hnone s hs)
  have hstarts : ∀ hunk ∈ Patch.twoFiles.hunks,
      (Nat.toDigits 10 hunk.start).length ≤ digitLimit := by decide
  exact ((ofDiff_text _).2 hplain _ rfl).2.2 hstarts

end PatchReview.Diff
