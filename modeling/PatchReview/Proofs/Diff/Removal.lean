import PatchReview.Budget.Trivial
import PatchReview.Proofs.Diff.Belonging
import PatchReview.Proofs.Diff.Exclusion

/-! Taking files out of the text of a diff.

A file is taken out with all of its segments, each from a file header up to the next one (`erase`).
The text that is left has the sections of the other files, as they were (`cutSections_staying`).
Where the last segment goes, an empty line is left behind the last line break, but blanks at the end
make no difference to a block (`entries_append_blanks`). So the blocks of what is left are those of
the other files, also once the lines that are not worth a review are gone
(`blocks_withoutTrivial_erase`), and looking at the patterns keeps the same blocks before and after
the files that they leave out are taken out (`keptBlocks_erase`). -/
namespace PatchReview.Diff

open Text

/-! ### Segments of a text -/

/-- Whether a line goes, where the line before it does if `out` is set: a file header says so for
itself and for the lines up to the next one. -/
def goes (takes : String → Bool) (out : Bool) (line : List Char) : Bool :=
  match opened? line with
  | some key => takes key
  | none => out

/-- The lines that stay. -/
def staying (takes : String → Bool) (out : Bool) : List (List Char) → List (List Char)
  | [] => []
  | line :: rest =>
    if goes takes out line then staying takes true rest else line :: staying takes false rest

/-- The text of the lines that stay, each with the line break behind it if it has one. -/
def stayingText (takes : String → Bool) (out : Bool) : List (List Char) → List Char
  | [] => []
  | line :: rest =>
    if goes takes out line then stayingText takes true rest
    else if rest = [] then line else line ++ '\n' :: stayingText takes false rest

/-- A diff without the segments of some files. -/
def erase (takes : String → Bool) (diff : String) : String :=
  String.ofList (stayingText takes false (splitNewlines diff.toList))

theorem goes_of_some {line path : List Char} (h : fileTarget? line = some path)
    (takes : String → Bool) (out : Bool) (lines : List (List Char)) :
    goes takes out line = takes (Section.key ⟨path, lines⟩) := by
  rw [goes, opened?_of_some h lines]

theorem goes_of_none {line : List Char} (h : fileTarget? line = none) (takes : String → Bool)
    (out : Bool) : goes takes out line = out := by
  rw [goes, opened?_of_none h]

theorem staying_cons_of_goes {takes : String → Bool} {out : Bool} {line : List Char}
    (h : goes takes out line = true) (rest : List (List Char)) :
    staying takes out (line :: rest) = staying takes true rest := by
  rw [staying, if_pos h]

theorem staying_cons_of_stays {takes : String → Bool} {out : Bool} {line : List Char}
    (h : goes takes out line = false) (rest : List (List Char)) :
    staying takes out (line :: rest) = line :: staying takes false rest := by
  rw [staying, h, if_neg Bool.false_ne_true]

theorem mem_of_mem_staying {takes : String → Bool} {out : Bool} {lines : List (List Char)}
    {line : List Char} (h : line ∈ staying takes out lines) : line ∈ lines := by
  induction lines generalizing out with
  | nil => exact h
  | cons first rest ih =>
    cases hg : goes takes out first with
    | true =>
      rw [staying_cons_of_goes hg] at h
      exact List.mem_cons_of_mem _ (ih h)
    | false =>
      rw [staying_cons_of_stays hg] at h
      rcases List.mem_cons.1 h with rfl | h
      · exact List.mem_cons_self
      · exact List.mem_cons_of_mem _ (ih h)

/-- What stays is the lines that stay, with an empty line behind them if the last line goes. -/
theorem exists_stayingText_eq (takes : String → Bool) (out : Bool) {lines : List (List Char)}
    (hne : lines ≠ []) :
    ∃ last, (last = [] ∨ last = [[]]) ∧ staying takes out lines ++ last ≠ [] ∧
      stayingText takes out lines = joinLines (staying takes out lines ++ last) := by
  induction lines generalizing out with
  | nil => exact absurd rfl hne
  | cons line rest ih =>
    cases hg : goes takes out line with
    | true =>
      rw [staying_cons_of_goes hg, stayingText, if_pos hg]
      rcases eq_or_ne rest [] with rfl | hrest
      · exact ⟨[[]], .inr rfl, List.cons_ne_nil _ _, rfl⟩
      · exact ih true hrest
    | false =>
      rw [staying_cons_of_stays hg, stayingText, hg, if_neg Bool.false_ne_true]
      rcases eq_or_ne rest [] with rfl | hrest
      · exact ⟨[], .inl rfl, List.cons_ne_nil _ _, rfl⟩
      · obtain ⟨last, hlast, hstay, htext⟩ := ih false hrest
        refine ⟨last, hlast, List.cons_ne_nil _ _, ?_⟩
        rw [if_neg hrest, htext, List.cons_append, joinLines_cons line hstay]

/-! ### Sections of what stays -/

/-- The sections of what stays are those of the files that are not taken out. -/
theorem cutSections_staying (takes : String → Bool) (out : Bool) (lines : List (List Char)) :
    cutSections (staying takes out lines) =
      (if out then [] else (cutSections lines).1,
        (cutSections lines).2.filter fun s => !takes s.key) := by
  induction lines generalizing out with
  | nil => simp [staying, cutSections]
  | cons line rest ih =>
    cases h : fileTarget? line with
    | some path =>
      have hgoes := goes_of_some h takes out (line :: (cutSections rest).1)
      rw [cutSections_cons_of_some h, ite_self]
      cases hkey : takes (Section.key ⟨path, line :: (cutSections rest).1⟩) with
      | true =>
        rw [staying_cons_of_goes (hgoes.trans hkey), ih, List.filter_cons_of_neg (by simp [hkey])]
        rfl
      | false =>
        rw [staying_cons_of_stays (hgoes.trans hkey), cutSections_cons_of_some h, ih,
          List.filter_cons_of_pos (by simp [hkey])]
        rfl
    | none =>
      have hgoes := goes_of_none h takes out
      rw [cutSections_cons_of_none h]
      cases out with
      | true =>
        rw [staying_cons_of_goes hgoes, ih]
        rfl
      | false =>
        rw [staying_cons_of_stays hgoes, cutSections_cons_of_none h, ih]
        rfl

/-- The sections of some lines, each as a block under its name. -/
def entries (lines : List (List Char)) : List (String × String) :=
  (cutSections lines).2.map fun s => (s.key, s.block)

theorem entries_cons_of_some {line path : List Char} (h : fileTarget? line = some path)
    (rest : List (List Char)) : entries (line :: rest) =
      ("b/" ++ String.ofList path, Section.block ⟨path, line :: (cutSections rest).1⟩) ::
        entries rest := by
  rw [entries, cutSections_cons_of_some h]
  rfl

theorem entries_cons_of_none {line : List Char} (h : fileTarget? line = none)
    (rest : List (List Char)) : entries (line :: rest) = entries rest := by
  rw [entries, cutSections_cons_of_none h]
  rfl

theorem entries_staying (takes : String → Bool) (lines : List (List Char)) :
    entries (staying takes false lines) = (entries lines).filter fun e => !takes e.1 := by
  rw [entries, entries, cutSections_staying, List.filter_map]
  rfl

/-- Blank lines behind a section make no difference to its block. -/
theorem block_append_blanks {path : List Char} {lines blanks : List (List Char)}
    (h : ∃ line ∈ lines, allBlank line = false) (hblanks : ∀ line ∈ blanks, allBlank line = true) :
    Section.block ⟨path, lines ++ blanks⟩ = Section.block ⟨path, lines⟩ := by
  obtain ⟨kept, last, end_, rfl, hlast, hend, -⟩ := exists_eq_append_last h
  have hall : ∀ line ∈ end_ ++ blanks, allBlank line = true := by
    intro line hl
    rcases List.mem_append.1 hl with hl | hl
    · exact hend line hl
    · exact hblanks line hl
  rw [Section.block, Section.block, List.append_assoc, List.cons_append,
    trimEnd_joinLines hlast hall, trimEnd_joinLines hlast hend]

theorem cutSections_of_allBlank {lines : List (List Char)}
    (h : ∀ line ∈ lines, allBlank line = true) : cutSections lines = (lines, []) := by
  induction lines with
  | nil => rfl
  | cons line rest ih =>
    have hnone : fileTarget? line = none := by
      by_contra hsome
      obtain ⟨path, hpath⟩ := Option.ne_none_iff_exists'.1 hsome
      have hblank := h line List.mem_cons_self
      rw [allBlank_of_fileTarget? hpath] at hblank
      exact absurd hblank (by decide)
    rw [cutSections_cons_of_none hnone, ih fun l hl => h l (List.mem_cons_of_mem _ hl)]

/-- Blank lines at the end go to the last section, or to what stands before the first one. -/
theorem entries_append_blanks (lines : List (List Char)) {blanks : List (List Char)}
    (hblanks : ∀ line ∈ blanks, allBlank line = true) :
    entries (lines ++ blanks) = entries lines := by
  -- The induction also has to say what comes in front of the first header.
  suffices h : entries (lines ++ blanks) = entries lines ∧
      ∃ more, (∀ line ∈ more, allBlank line = true) ∧
        (cutSections (lines ++ blanks)).1 = (cutSections lines).1 ++ more from h.1
  induction lines with
  | nil =>
    have hcut := cutSections_of_allBlank hblanks
    refine ⟨?_, blanks, hblanks, ?_⟩
    · rw [List.nil_append, entries, hcut]
      rfl
    · rw [List.nil_append, hcut]
      rfl
  | cons line rest ih =>
    obtain ⟨hentries, more, hmore, hbefore⟩ := ih
    cases h : fileTarget? line with
    | some path =>
      have hblock : Section.block ⟨path, (line :: (cutSections rest).1) ++ more⟩ =
          Section.block ⟨path, line :: (cutSections rest).1⟩ :=
        block_append_blanks ⟨line, List.mem_cons_self, allBlank_of_fileTarget? h⟩ hmore
      refine ⟨?_, [], fun _ hl => absurd hl List.not_mem_nil, ?_⟩
      · rw [List.cons_append, entries_cons_of_some h, entries_cons_of_some h, hentries, hbefore,
          ← List.cons_append, hblock]
      · rw [List.cons_append, cutSections_cons_of_some h, cutSections_cons_of_some h]
        rfl
    | none =>
      refine ⟨?_, more, hmore, ?_⟩
      · rw [List.cons_append, entries_cons_of_none h, entries_cons_of_none h, hentries]
      · rw [List.cons_append, cutSections_cons_of_none h, cutSections_cons_of_none h, hbefore]
        rfl

/-! ### Blocks of what stays -/

/-- No line break of any kind. -/
def IsUnbroken (line : List Char) : Prop := '\n' ∉ line ∧ '\r' ∉ line

theorem blocks_joinLines {lines : List (List Char)} (h : ∀ line ∈ lines, IsUnbroken line) :
    blocks (String.ofList (joinLines lines)) = Keyed.ofList (entries lines) := by
  have hsections : sections (joinLines lines) = (cutSections lines).2 := by
    rcases eq_or_ne lines [] with rfl | hne
    · rfl
    · have hreturn : '\r' ∉ joinLines lines := by
        intro hm
        rcases mem_joinLines hm with hm | ⟨line, hl, hm⟩
        · exact absurd hm (by decide)
        · exact (h line hl).2 hm
      rw [sections, splitLines_eq_splitNewlines _ hreturn,
        splitNewlines_joinLines hne fun line hl => (h line hl).1]
  rw [blocks, String.toList_ofList, hsections, entries]

/-- No line that is not worth a review is a file header. -/
theorem fileTarget?_of_isTrivial {line : List Char} (h : Budget.isTrivial line = true) :
    fileTarget? line = none := by
  unfold Budget.isTrivial at h
  split at h
  · exact fileTarget?_cons_of_ne (by decide) _
  · exact absurd h Bool.false_ne_true

/-- It makes no difference whether the lines that are not worth a review go first or last. -/
theorem filter_staying (takes : String → Bool) (out : Bool) (lines : List (List Char)) :
    (staying takes out lines).filter (!Budget.isTrivial ·) =
      staying takes out (lines.filter (!Budget.isTrivial ·)) := by
  induction lines generalizing out with
  | nil => rfl
  | cons line rest ih =>
    cases ht : Budget.isTrivial line with
    | true =>
      have hgoes := goes_of_none (fileTarget?_of_isTrivial ht) takes out
      rw [List.filter_cons_of_neg (by simp [ht]), ← ih]
      cases out with
      | true => rw [staying_cons_of_goes hgoes]
      | false => rw [staying_cons_of_stays hgoes, List.filter_cons_of_neg (by simp [ht])]
    | false =>
      rw [List.filter_cons_of_pos (by simp [ht])]
      cases hg : goes takes out line with
      | true => rw [staying_cons_of_goes hg, staying_cons_of_goes hg, ih]
      | false =>
        rw [staying_cons_of_stays hg, staying_cons_of_stays hg, ← ih,
          List.filter_cons_of_pos (by simp [ht])]

theorem isUnbroken_of_mem_splitNewlines {s : List Char} (hr : '\r' ∉ s) {line : List Char}
    (h : line ∈ splitNewlines s) : IsUnbroken line :=
  ⟨(mem_of_mem_splitNewlines h).1, fun hm => hr ((mem_of_mem_splitNewlines h).2 _ hm)⟩

/-- With files taken out, the blocks of the other files are left. -/
theorem blocks_withoutTrivial_erase (takes : String → Bool) {diff : String}
    (hr : '\r' ∉ diff.toList) :
    blocks (Budget.withoutTrivial (erase takes diff)) =
      (blocks (Budget.withoutTrivial diff)).filter fun e => !takes e.1 := by
  obtain ⟨last, hlast, hne, htext⟩ :=
    exists_stayingText_eq takes false (splitNewlines_ne_nil diff.toList)
  have hblanks : ∀ line ∈ last, allBlank line = true ∧ IsUnbroken line ∧
      Budget.isTrivial line = false := by
    rcases hlast with rfl | rfl
    · exact fun _ hl => absurd hl List.not_mem_nil
    · intro line hl
      rw [List.mem_singleton.1 hl]
      exact ⟨rfl, ⟨List.not_mem_nil, List.not_mem_nil⟩, rfl⟩
  have hunbroken : ∀ line ∈ staying takes false (splitNewlines diff.toList) ++ last,
      IsUnbroken line := by
    intro line hl
    rcases List.mem_append.1 hl with hl | hl
    · exact isUnbroken_of_mem_splitNewlines hr (mem_of_mem_staying hl)
    · exact (hblanks line hl).2.1
  have hfilter : (staying takes false (splitNewlines diff.toList) ++ last).filter
      (!Budget.isTrivial ·) =
        staying takes false ((splitNewlines diff.toList).filter (!Budget.isTrivial ·)) ++ last := by
    have hstay : last.filter (!Budget.isTrivial ·) = last :=
      List.filter_eq_self.2 fun line hl => by simp [(hblanks line hl).2.2]
    rw [List.filter_append, filter_staying, hstay]
  rw [Budget.withoutTrivial, erase, String.toList_ofList, htext,
    splitNewlines_joinLines hne fun line hl => (hunbroken line hl).1, hfilter, blocks_joinLines,
    entries_append_blanks _ fun line hl => (hblanks line hl).1, entries_staying,
    Keyed.ofList_filter fun key => !takes key, Budget.withoutTrivial, blocks_joinLines]
  · exact fun line hl => isUnbroken_of_mem_splitNewlines hr (List.mem_filter.1 hl).1
  · rw [← hfilter]
    exact fun line hl => hunbroken line (List.mem_filter.1 hl).1

section
variable [StandIns] {patterns : List String}

/-- Whether some patterns leave out a file, as far as they can be read. -/
def leavesOut (patterns : List String) (key : String) : Bool :=
  match isExcluded patterns key with
  | .ok out => out
  | .error _ => false

/-- What patterns leave out of some blocks depends on the names of the blocks. -/
theorem withoutExcluded_eq_filter (h : ∀ p ∈ patterns, Compiles p) (blocks : Blocks) :
    withoutExcluded patterns blocks = .ok (blocks.filter fun e => !leavesOut patterns e.1) := by
  induction blocks with
  | nil => rfl
  | cons e rest ih =>
    obtain ⟨key, block⟩ := e
    obtain ⟨out, hout⟩ : ∃ out, isExcluded patterns key = .ok out :=
      anyExcludes_of_compiles h (withoutSide key)
    have hleaves : leavesOut patterns key = out := by rw [leavesOut, hout]
    rw [withoutExcluded, hout, ih]
    cases out with
    | true =>
      rw [List.filter_cons_of_neg (by simp [hleaves])]
      rfl
    | false =>
      rw [List.filter_cons_of_pos (by simp [hleaves])]
      rfl

/-- The blocks that are kept are those of the diff without the files that are left out. -/
theorem keptBlocks_erase (h : ∀ p ∈ patterns, Compiles p) {diff : String}
    (hr : '\r' ∉ diff.toList) :
    keptBlocks patterns (Budget.withoutTrivial diff) =
        .ok (blocks (Budget.withoutTrivial (erase (leavesOut patterns) diff))) ∧
      keptBlocks patterns (Budget.withoutTrivial (erase (leavesOut patterns) diff)) =
        .ok (blocks (Budget.withoutTrivial (erase (leavesOut patterns) diff))) := by
  have herase := blocks_withoutTrivial_erase (leavesOut patterns) hr
  constructor
  · rw [keptBlocks, withoutExcluded_eq_filter h, herase]
  · rw [keptBlocks, withoutExcluded_eq_filter h, herase, List.filter_filter]
    simp only [Bool.and_self]

end

end PatchReview.Diff
