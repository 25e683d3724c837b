import PatchReview.Proofs.Diff.Patch
import PatchReview.Proofs.Diff.Removal

/-! Under which names a file is known.

Version control names a file twice: behind both marks of the file header, and in the target header,
where a path with a space has a tab behind it. The path is taken from the file header as what stands
behind the first separator, so a path that has one itself comes out longer
(`exists_targetOfPair?_append`), and the tab is taken for a part of the path. All the same, sections
of different files are recorded under different names (`ofLines_sections`). What is recorded has the
name of the file exactly if that has no space, and its block exactly if the separator does not occur
behind the first character of the path (`recorded_and_kept_iff`). -/
namespace PatchReview.Diff

open Text
open AddedLines (Place)

/-! ### The target of a file header -/

/-- What separates the two paths of a file header. -/
def separator : List Char := [' ', 'b', '/']

/-- A separator at the front does not reach into one that comes later. -/
theorem separator_startsWith {p q : List Char} (hne : p ≠ [])
    (h : separator <+: p ++ (separator ++ q)) : separator <+: p := by
  obtain ⟨rest, hrest⟩ := h
  match p with
  | [] => exact absurd rfl hne
  | [c] => simp [separator] at hrest
  | [c, d] => simp [separator] at hrest
  | c :: d :: e :: p =>
    simp only [separator, List.cons_append, List.cons.injEq] at hrest
    obtain ⟨rfl, rfl, rfl, -⟩ := hrest
    exact ⟨p, rfl⟩

theorem targetOfPair?_separator {q : List Char} (hq : q ≠ []) :
    targetOfPair? (separator ++ q) = some q := by
  obtain ⟨c, q, rfl⟩ := List.exists_cons_of_ne_nil hq
  rfl

/-- Without a separator at the front the search goes on. -/
theorem targetOfPair?_cons {c : Char} {s : List Char} (h : ¬separator <+: c :: s) :
    targetOfPair? (c :: s) = targetOfPair? s := by
  have hafter : after? separator (c :: s) = none := by
    refine Option.eq_none_iff_forall_ne_some.2 fun rest hrest => h ⟨rest, ?_⟩
    exact ((after?_eq_some_iff _ _ _).1 hrest).symm
  rw [separator] at hafter
  rw [targetOfPair?, hafter]

/-- What stands in front of the separator is passed, if it has no separator itself. -/
theorem targetOfPair?_append {p q : List Char} (h : ¬separator <:+: p) (hq : q ≠ []) :
    targetOfPair? (p ++ (separator ++ q)) = some q := by
  induction p with
  | nil => exact targetOfPair?_separator hq
  | cons c p ih =>
    have hfront : ¬separator <+: c :: (p ++ (separator ++ q)) := fun hs =>
      h (separator_startsWith (List.cons_ne_nil c p) hs).isInfix
    rw [List.cons_append, targetOfPair?_cons hfront]
    exact ih fun hs => h (List.infix_cons hs)

/-- A separator in front of the right one is taken for it. -/
theorem exists_targetOfPair?_append {p : List Char} (h : separator <:+: p) (q : List Char) :
    ∃ s, targetOfPair? (p ++ (separator ++ q)) = some (s ++ (separator ++ q)) := by
  induction p with
  | nil => exact absurd (List.eq_nil_of_infix_nil h) (List.cons_ne_nil _ _)
  | cons c p ih =>
    by_cases hfront : separator <+: c :: p
    · obtain ⟨rest, hrest⟩ := hfront
      refine ⟨rest, ?_⟩
      rw [← hrest, List.append_assoc]
      exact targetOfPair?_separator (List.append_ne_nil_of_right_ne_nil _ (List.cons_ne_nil _ _))
    · have hs : separator <:+: p := (List.infix_cons_iff.1 h).resolve_left hfront
      have hfront' : ¬separator <+: c :: (p ++ (separator ++ q)) := fun hs =>
        hfront (separator_startsWith (List.cons_ne_nil c p) hs)
      rw [List.cons_append, targetOfPair?_cons hfront']
      exact ih hs

/-- Behind the first character of the source path a target is searched for. -/
theorem fileTarget?_append {p : List Char} (hne : p ≠ []) (q : List Char) :
    fileTarget? ("diff --git a/".toList ++ (p ++ q)) = targetOfPair? (p.tail ++ q) := by
  have hafter := after?_append "diff --git a/".toList (p ++ q)
  cases p with
  | nil => exact absurd rfl hne
  | cons c p =>
    rw [fileTarget?, hafter]
    simp only [Option.bind_eq_bind, Option.bind_some, List.cons_append, List.tail_cons]

/-- A path as headers have it. -/
abbrev FilePath := { s : Line // s.1 ≠ [] }

namespace FilePath

def chars (path : FilePath) : List Char := path.1.1

def name (path : FilePath) : String := String.ofList path.chars

def fileHeader (path : FilePath) : List Char :=
  "diff --git a/".toList ++ (path.chars ++ (separator ++ path.chars))

/-- A tab marks the end of a path with a space. -/
def endMark (path : FilePath) : List Char := if ' ' ∈ path.chars then ['\t'] else []

def targetHeader (path : FilePath) : List Char := "+++ b/".toList ++ (path.chars ++ path.endMark)

theorem chars_ne_nil (path : FilePath) : path.chars ≠ [] := path.2

variable {path other : FilePath}

theorem fileTarget?_fileHeader (path : FilePath) :
    fileTarget? path.fileHeader =
      targetOfPair? (path.chars.tail ++ (separator ++ path.chars)) :=
  fileTarget?_append path.chars_ne_nil _

theorem fileTarget?_fileHeader_of_unseparated (h : ¬separator <:+: path.chars.tail) :
    fileTarget? path.fileHeader = some path.chars := by
  rw [fileTarget?_fileHeader, targetOfPair?_append h path.chars_ne_nil]

/-- A path with a separator comes out longer. -/
theorem exists_fileTarget?_fileHeader (h : separator <:+: path.chars.tail) :
    ∃ s, fileTarget? path.fileHeader = some (s ++ (separator ++ path.chars)) := by
  rw [fileTarget?_fileHeader]
  exact exists_targetOfPair?_append h _

/-- What a file header names as its target. -/
def target (path : FilePath) : List Char := (fileTarget? path.fileHeader).getD []

theorem fileTarget?_eq_target (path : FilePath) :
    fileTarget? path.fileHeader = some path.target := by
  rw [target]
  by_cases h : separator <:+: path.chars.tail
  · obtain ⟨s, hs⟩ := exists_fileTarget?_fileHeader h
    rw [hs, Option.getD_some]
  · rw [fileTarget?_fileHeader_of_unseparated h, Option.getD_some]

/-- The header names the path itself exactly if no separator comes before the right one. -/
theorem target_eq_iff (path : FilePath) :
    path.target = path.chars ↔ ¬separator <:+: path.chars.tail := by
  constructor
  · intro heq h
    obtain ⟨s, hs⟩ := exists_fileTarget?_fileHeader h
    rw [fileTarget?_eq_target, Option.some.injEq, heq] at hs
    have hlen := congrArg List.length hs
    simp only [separator, List.length_append, List.length_cons] at hlen
    omega
  · intro h
    have htarget := fileTarget?_fileHeader_of_unseparated h
    rwa [fileTarget?_eq_target, Option.some.injEq] at htarget

/-- No other file is taken for one without a separator in its path. -/
theorem eq_of_target_eq (h : ¬separator <:+: path.chars.tail)
    (heq : other.target = path.chars) : other = path := by
  have hchars : other.chars = path.chars := by
    by_cases hother : separator <:+: other.chars.tail
    · -- Its separator would be one of the path as well.
      obtain ⟨s, hs⟩ := exists_fileTarget?_fileHeader hother
      rw [fileTarget?_eq_target, Option.some.injEq, heq] at hs
      refine absurd (hother.trans ?_) h
      have htail : other.chars.tail <:+ path.chars.tail := by
        rw [hs]
        cases s with
        | nil => exact (List.tail_suffix _).trans ⟨['b', '/'], rfl⟩
        | cons c s => exact (List.tail_suffix _).trans ⟨s ++ separator, by simp⟩
      exact htail.isInfix
    · rw [← heq, (target_eq_iff other).2 hother]
  exact Subtype.ext (Subtype.ext hchars)

/-! ### Headers as lines -/

theorem isLine_fileHeader (path : FilePath) : IsLine path.fileHeader := by
  have hpath : IsLine path.chars := path.1.2
  have hend : IsLine (separator ++ path.chars) := hpath.append (by decide) path.chars_ne_nil
  have hpair : IsLine (path.chars ++ (separator ++ path.chars)) :=
    hend.append hpath.newline_notMem (List.append_ne_nil_of_left_ne_nil (List.cons_ne_nil _ _) _)
  exact hpair.append (by decide) (List.append_ne_nil_of_left_ne_nil path.chars_ne_nil _)

theorem isLine_targetHeader (path : FilePath) : IsLine path.targetHeader := by
  have hpath : IsLine path.chars := path.1.2
  have hmarked : IsLine (path.chars ++ path.endMark) := by
    unfold endMark
    split
    · exact IsLine.append hpath.newline_notMem ⟨by decide, by decide⟩ (List.cons_ne_nil _ _)
    · rwa [List.append_nil]
  exact hmarked.append (by decide) (List.append_ne_nil_of_left_ne_nil path.chars_ne_nil _)

/-- A file header is no other header, and it adds nothing. -/
theorem isIdle_fileHeader (path : FilePath) : Place.IsIdle path.fileHeader :=
  Place.isIdle_cons (c := 'd') (by decide) (by decide) _

theorem hunkStart?_targetHeader (path : FilePath) : hunkStart? path.targetHeader = none :=
  hunkStart?_cons_of_ne (c := '+') (by decide) _

theorem fileTarget?_targetHeader (path : FilePath) : fileTarget? path.targetHeader = none :=
  fileTarget?_cons_of_ne (c := '+') (by decide) _

/-! ### Recorded names -/

/-- The name under which the added lines of a file are recorded. -/
def recordedName (path : FilePath) : String := String.ofList (path.chars ++ path.endMark)

theorem targetPath?_targetHeader (path : FilePath) :
    targetPath? path.targetHeader = some (path.chars ++ path.endMark) := by
  have hblank : IsBlanks [' '] := ⟨List.cons_ne_nil _ _, by decide⟩
  have hne : path.chars ++ path.endMark ≠ [] :=
    List.append_ne_nil_of_left_ne_nil path.chars_ne_nil _
  rw [targetPath?_eq_some_iff]
  exact .mk hblank hne

theorem mem_endMark {c : Char} (h : c ∈ path.endMark) : c = '\t' ∧ ' ' ∈ path.chars := by
  unfold endMark at h
  split at h
  · rename_i hspace
    exact ⟨List.mem_singleton.1 h, hspace⟩
  · exact absurd h List.not_mem_nil

/-- The mark behind a path with a space tells it from every path without one. -/
theorem recordedName_injective : Function.Injective recordedName := by
  intro path other h
  have hchars : path.chars ++ path.endMark = other.chars ++ other.endMark :=
    String.ofList_injective h
  have hspace : ∀ p : FilePath, ' ' ∈ p.chars ++ p.endMark ↔ ' ' ∈ p.chars := by
    intro p
    rw [List.mem_append, or_iff_left_iff_imp]
    exact fun hm => (mem_endMark hm).2
  have hmark : path.endMark = other.endMark := by
    have hboth : ' ' ∈ path.chars ↔ ' ' ∈ other.chars := by
      rw [← hspace path, hchars, hspace other]
    unfold endMark
    rw [if_congr hboth rfl rfl]
  rw [hmark] at hchars
  exact Subtype.ext (Subtype.ext (List.append_cancel_right hchars))

theorem recordedName_eq_iff (path : FilePath) :
    path.recordedName = path.name ↔ ' ' ∉ path.chars := by
  rw [recordedName, name, String.ofList_inj, endMark]
  simp

end FilePath

/-! ### Sections as version control writes them -/

/-- The hunks of a file below its headers, with some lines between these. -/
structure FileSection where
  path : FilePath
  /-- What is said about the file between its header and the target header. -/
  between : List Line
  hunks : List Hunk
  not_header : ∀ line ∈ between, fileTarget? line.1 = none
  idle : ∀ line ∈ between, Place.IsIdle line.1
  hunks_ne_nil : hunks ≠ []

namespace FileSection

/-- The lines below the file header. -/
def body (s : FileSection) : List (List Char) :=
  s.between.map (·.1) ++ s.path.targetHeader :: s.hunks.flatMap Hunk.lines

def lines (s : FileSection) : List (List Char) := s.path.fileHeader :: s.body

/-- The lines that the section adds. -/
def added (s : FileSection) : List Line := s.hunks.flatMap Hunk.added

def recorded (s : FileSection) : List AddedLine := s.hunks.flatMap Hunk.recorded

/-- The section as a block. -/
def block (s : FileSection) : String := Section.block ⟨s.path.chars, s.lines⟩

/-- Below its header, a section has no file header. -/
theorem fileTarget?_of_mem_body {s : FileSection} {line : List Char} (h : line ∈ s.body) :
    fileTarget? line = none := by
  rcases List.mem_append.1 h with h | h
  · obtain ⟨l, hl, rfl⟩ := List.mem_map.1 h
    exact s.not_header l hl
  · rcases List.mem_cons.1 h with rfl | h
    · exact s.path.fileTarget?_targetHeader
    · obtain ⟨hunk, -, h⟩ := List.mem_flatMap.1 h
      rcases List.mem_cons.1 h with rfl | h
      · exact fileTarget?_cons_of_ne (c := '@') (by decide) _
      · obtain ⟨bodyLine, -, rfl⟩ := List.mem_map.1 h
        cases bodyLine with
        | context t => exact fileTarget?_cons_of_ne (c := ' ') (by decide) _
        | deleted t => exact fileTarget?_cons_of_ne (c := '-') (by decide) _
        | added t => exact fileTarget?_cons_of_ne (c := '+') (by decide) _

/-- The lines of a section are lines, and the hunk headers among them are those of its hunks. -/
theorem of_mem_section_lines {s : FileSection} {line : List Char} (h : line ∈ s.lines) :
    IsLine line ∧ ∀ digits, hunkStart? line = some digits →
      ∃ hunk ∈ s.hunks, digits = Nat.toDigits 10 hunk.start := by
  have other {line : List Char} (hline : IsLine line) (hn : hunkStart? line = none) :
      IsLine line ∧ ∀ digits, hunkStart? line = some digits →
        ∃ hunk ∈ s.hunks, digits = Nat.toDigits 10 hunk.start := by
    refine ⟨hline, fun digits hd => ?_⟩
    rw [hn] at hd
    exact absurd hd (Option.some_ne_none _).symm
  rcases List.mem_cons.1 h with rfl | h
  · exact other s.path.isLine_fileHeader s.path.isIdle_fileHeader.2.1
  · rcases List.mem_append.1 h with h | h
    · obtain ⟨l, hl, rfl⟩ := List.mem_map.1 h
      exact other l.2 (s.idle l hl).2.1
    · rcases List.mem_cons.1 h with rfl | h
      · exact other s.path.isLine_targetHeader s.path.hunkStart?_targetHeader
      · exact of_mem_hunk_lines h

/-- Wherever reading stands before a section, the section is recorded under one name. -/
theorem notes_section {s : FileSection} (h : ∀ line ∈ s.added, ¬NamesTarget line) (p : Place) :
    p.notes s.lines =
      (s.path.recordedName, []) :: singles s.path.recordedName s.recorded := by
  have hbetween : ∀ line ∈ s.between.map (·.1), Place.IsIdle line :=
    List.forall_mem_map.2 s.idle
  have htarget := s.path.targetPath?_targetHeader
  rw [lines, Place.notes_cons_of_idle s.path.isIdle_fileHeader, body,
    Place.notes_append_of_idle hbetween, Place.notes, Place.note?_of_target htarget,
    Place.after_of_target htarget, notes_hunks _ _ _ h]
  rfl

end FileSection

/-- Sections of different files, no added line of which reads as a target header. -/
structure FileSections where
  all : List FileSection
  nodup_paths : (all.map FileSection.path).Nodup
  plain : ∀ s ∈ all, ∀ line ∈ s.added, ¬NamesTarget line

namespace FileSections

variable {d : FileSections} {s : FileSection}

def lines (d : FileSections) : List (List Char) := d.all.flatMap FileSection.lines

/-- The sections as version control lays them out. -/
def text (d : FileSections) : String := String.ofList (closedLines d.lines)

theorem splitLines_text (d : FileSections) : splitLines d.text.toList = d.lines ++ [[]] := by
  rw [text, String.toList_ofList]
  refine splitLines_closed fun line hl => ?_
  obtain ⟨s, _, hline⟩ := List.mem_flatMap.1 hl
  exact (FileSection.of_mem_section_lines hline).1

/-- Sections of different files are recorded under different names. -/
theorem ofLines_sections (d : FileSections) :
    AddedLines.ofLines (splitLines d.text.toList) =
      d.all.map fun s => (s.path.recordedName, s.recorded) := by
  rw [splitLines_text]
  refine ofLines_flatMap (fun s hs p => FileSection.notes_section (d.plain s hs) p) ?_
  have hnames := d.nodup_paths.map FilePath.recordedName_injective
  rwa [List.map_map] at hnames

theorem cutSections_lines (sections : List FileSection) :
    cutSections (sections.flatMap FileSection.lines) =
      ([], sections.map fun s => ⟨s.path.target, s.lines⟩) := by
  induction sections with
  | nil => rfl
  | cons s sections ih =>
    rw [List.flatMap_cons, FileSection.lines, List.cons_append,
      cutSections_cons_of_some s.path.fileTarget?_eq_target,
      cutSections_append_of_none (fun _ => FileSection.fileTarget?_of_mem_body), ih,
      List.append_nil]
    rfl

/-- The blocks of some sections have the names in the file headers. -/
theorem blocks_sections (d : FileSections) :
    blocks d.text =
      Keyed.ofList (d.all.map fun s => (withSide (String.ofList s.path.target), s.block)) := by
  have hblank : ∀ line ∈ [[]], allBlank line = true := fun line hl =>
    List.mem_singleton.1 hl ▸ rfl
  have hentries : entries (splitLines d.text.toList) =
      d.all.map fun s => (withSide (String.ofList s.path.target), s.block) := by
    rw [splitLines_text, entries_append_blanks _ hblank, entries, lines, cutSections_lines,
      List.map_map]
    rfl
  rw [← hentries]
  rfl

/-- A file without a separator in its path has the block of its own section. -/
theorem get?_blocks (hs : s ∈ d.all) (h : ¬separator <:+: s.path.chars.tail) :
    (blocks d.text).get? (withSide s.path.name) = some s.block := by
  have hname : withSide s.path.name = withSide (String.ofList s.path.target) := by
    rw [(FilePath.target_eq_iff s.path).2 h]
    rfl
  have hkey : withSide s.path.name ∈ Keyed.keys (blocks d.text) := by
    rw [blocks_sections, Keyed.mem_keys_ofList, hname]
    exact List.mem_map.2 ⟨_, List.mem_map.2 ⟨s, hs, rfl⟩, rfl⟩
  obtain ⟨entry, hentry, hfirst⟩ := List.mem_map.1 hkey
  have hnodup : (Keyed.keys (blocks d.text)).Nodup := Keyed.nodup_keys_ofList _
  rw [← hfirst, Keyed.get?_of_mem hnodup hentry]
  -- The block is that of a section whose header names this file, and that is this one.
  rw [blocks_sections] at hentry
  obtain ⟨other, hother, rfl⟩ := List.mem_map.1 (Keyed.mem_ofList hentry)
  have htarget : other.path.target = s.path.chars :=
    String.ofList_injective (withSide_injective hfirst)
  rw [List.inj_on_of_nodup_map d.nodup_paths hother hs (FilePath.eq_of_target_eq h htarget)]

/-- The added lines of a file are recorded under one name. -/
theorem get?_ofLines (hs : s ∈ d.all) :
    (AddedLines.ofLines (splitLines d.text.toList)).get? s.path.recordedName = some s.recorded := by
  have hnodup : (Keyed.keys (d.all.map fun s => (s.path.recordedName, s.recorded))).Nodup := by
    have hnames := d.nodup_paths.map FilePath.recordedName_injective
    rw [List.map_map] at hnames
    rwa [Keyed.keys, List.map_map]
  rw [ofLines_sections]
  exact Keyed.get?_of_mem hnodup (List.mem_map.2 ⟨s, hs, rfl⟩)

/-- Reading the sections comes to an end exactly if no hunk starts at a number with too many
digits. -/
theorem ofDiff_eq_ok_iff (d : FileSections) :
    AddedLines.ofDiff d.text = .ok (AddedLines.ofLines (splitLines d.text.toList)) ↔
      ∀ s ∈ d.all, ∀ hunk ∈ s.hunks, (Nat.toDigits 10 hunk.start).length ≤ digitLimit := by
  have hlines : ∀ line ∈ d.lines, ∀ digits, hunkStart? line = some digits →
      ∃ hunk ∈ d.all.flatMap FileSection.hunks, digits = Nat.toDigits 10 hunk.start := by
    intro line hl digits hd
    obtain ⟨s, hs, hline⟩ := List.mem_flatMap.1 hl
    obtain ⟨hunk, hmem, hdigits⟩ := (FileSection.of_mem_section_lines hline).2 digits hd
    exact ⟨hunk, List.mem_flatMap.2 ⟨s, hs, hmem⟩, hdigits⟩
  have hhunks : ∀ hunk ∈ d.all.flatMap FileSection.hunks, hunk.header ∈ d.lines := by
    intro hunk hmem
    obtain ⟨s, hs, hhunk⟩ := List.mem_flatMap.1 hmem
    refine List.mem_flatMap.2 ⟨s, hs, List.mem_cons_of_mem _ (List.mem_append_right _ ?_)⟩
    exact List.mem_cons_of_mem _ (List.mem_flatMap.2 ⟨hunk, hhunk, List.mem_cons_self⟩)
  have hread := oversizedStart?_hunks_eq_none_iff hlines hhunks
  simp only [List.forall_mem_flatMap] at hread
  rw [← hread, AddedLines.ofDiff, splitLines_text]
  cases AddedLines.oversizedStart? (d.lines ++ [[]]) with
  | none => simp
  | some digits => simp

/-- One file with one hunk, which adds one line. -/
def adding (path : FilePath) : FileSections where
  all := [{
    path := path
    between := []
    hunks := [⟨0, some 0, 1, none, ⟨[], isLine_nil⟩, [.added ⟨['x'], by decide, by decide⟩]⟩]
    not_header := fun _ h => absurd h List.not_mem_nil
    idle := fun _ h => absurd h List.not_mem_nil
    hunks_ne_nil := List.cons_ne_nil _ _ }]
  nodup_paths := List.nodup_singleton _
  plain := by
    intro s hs line hl
    obtain rfl := List.mem_singleton.1 hs
    obtain rfl := List.mem_singleton.1 hl
    rintro ⟨w, path, -, -, h⟩
    exact absurd (List.cons.inj h).1 (by decide)

end FileSections

variable [StandIns]

/-- Of sections of different files, each with a hunk, that of a file is recorded under its path in
every diff exactly if the path has no space, and its block goes by the path, with `b/` in front, in
every diff exactly if no separator of the two paths in the file header occurs behind the first
character of the path. So both know it by one name exactly if it has no space. -/
theorem recorded_and_kept_iff (path : FilePath) :
    ((∀ d : FileSections, ∀ s ∈ d.all, s.path = path →
      (AddedLines.ofLines (splitLines d.text.toList)).get? path.name = some s.recorded ∧
        (AddedLines.ofDiff d.text = .ok (AddedLines.ofLines (splitLines d.text.toList)) ↔
          ∀ s ∈ d.all, ∀ hunk ∈ s.hunks, (Nat.toDigits 10 hunk.start).length ≤ digitLimit)) ↔
      ' ' ∉ path.chars) ∧
    ((∀ d : FileSections, ∀ s ∈ d.all, s.path = path → ∃ kept, keptBlocks [] d.text = .ok kept ∧
        kept.get? ("b/" ++ path.name) = some s.block) ↔
      ¬separator <:+: path.chars.tail) := by
  constructor
  · constructor
    · intro h
      have hget := (h (FileSections.adding path) _ List.mem_cons_self rfl).1
      rw [FileSections.ofLines_sections] at hget
      have hname := (Prod.mk.inj (List.mem_singleton.1 (Keyed.mem_of_get? hget))).1
      exact (FilePath.recordedName_eq_iff path).1 hname.symm
    · rintro hspace d s hs rfl
      refine ⟨?_, d.ofDiff_eq_ok_iff⟩
      rw [← (FilePath.recordedName_eq_iff s.path).2 hspace]
      exact FileSections.get?_ofLines hs
  · constructor
    · intro h
      obtain ⟨kept, hkept, hget⟩ := h (FileSections.adding path) _ List.mem_cons_self rfl
      obtain rfl := Except.ok.inj ((withoutExcluded_nil _).symm.trans hkept)
      rw [FileSections.blocks_sections] at hget
      have hmem := Keyed.mem_ofList (Keyed.mem_of_get? hget)
      have hkey := withSide_injective (Prod.mk.inj (List.mem_singleton.1 hmem)).1
      exact (FilePath.target_eq_iff path).1 (String.ofList_injective hkey).symm
    · rintro hseparator d s hs rfl
      exact ⟨blocks d.text, withoutExcluded_nil _, FileSections.get?_blocks hs hseparator⟩

end PatchReview.Diff
