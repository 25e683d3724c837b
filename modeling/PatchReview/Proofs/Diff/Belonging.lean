import Mathlib.Data.List.Nodup
import PatchReview.Diff.Exclusion
import PatchReview.Proofs.Diff.Sections

/-! Which block a line is in.

From the first file header on, every line belongs to the file whose header came last (`belonging`).
The block of a file has the lines of the last section under its name (`written_blockLines`), so it
has no line of another file. It has all lines of its own file, whatever the file, exactly if no name
has two headers (`keptBlocks_loses_nothing_iff`): with a second header, what stands under the first
one is in no block. -/
namespace PatchReview.Diff

open Text

/-! ### Lines of a file -/

/-- The name of the block that a file header opens. -/
def opened? (line : List Char) : Option String :=
  (fileTarget? line).map fun path => "b/" ++ String.ofList path

/-- The names of the file headers among some lines. -/
def opened (lines : List (List Char)) : List String := lines.filterMap opened?

/-- The lines that belong to a file, where the lines before the first header belong to `owner`. -/
def belonging (key : String) (owner : Option String) : List (List Char) → List (List Char)
  | [] => []
  | line :: rest =>
    let owner := (opened? line).or owner
    if owner = some key then line :: belonging key owner rest else belonging key owner rest

/-- The lines of a diff that belong to a file. -/
def linesOf (key : String) (diff : String) : List (List Char) :=
  belonging key none (splitLines diff.toList)

/-- The lines of a file's block, if it has one. -/
def blockLines (key : String) (blocks : Blocks) : List (List Char) :=
  ((blocks.get? key).map fun block => splitLines block.toList).getD []

/-- What is written on some lines: they themselves, without the blanks behind them and without the
lines that are blank. -/
def written (lines : List (List Char)) : List (List Char) :=
  (lines.map trimEnd).filter (· ≠ [])

theorem written_append (a b : List (List Char)) : written (a ++ b) = written a ++ written b := by
  rw [written, List.map_append, List.filter_append]
  rfl

theorem written_flatMap {α : Type} (items : List α) (f : α → List (List Char)) :
    written (items.flatMap f) = items.flatMap fun a => written (f a) := by
  induction items with
  | nil => rfl
  | cons a items ih => rw [List.flatMap_cons, written_append, ih, List.flatMap_cons]

theorem written_of_allBlank {lines : List (List Char)} (h : ∀ line ∈ lines, allBlank line = true) :
    written lines = [] := by
  rw [written, List.filter_eq_nil_iff]
  intro line hl
  obtain ⟨whole, hw, rfl⟩ := List.mem_map.1 hl
  simp [trimEnd_eq_nil (h whole hw)]

theorem written_singleton_trimEnd (line : List Char) : written [trimEnd line] = written [line] := by
  rw [written, written, List.map_singleton, List.map_singleton, trimEnd_trimEnd]

/-! ### Sections under one name -/

/-- The sections of a diff under one name. -/
def sectionsOf (key : String) (diff : List Char) : List Section :=
  (sections diff).filter (·.key = key)

/-- A header's section has the name that the header opens. -/
theorem opened?_of_some {line path : List Char} (h : fileTarget? line = some path)
    (lines : List (List Char)) : opened? line = some (Section.key ⟨path, lines⟩) := by
  rw [opened?, h]
  rfl

theorem opened?_of_none {line : List Char} (h : fileTarget? line = none) :
    opened? line = none := by
  rw [opened?, h]
  rfl

theorem opened_eq_map_key (lines : List (List Char)) :
    opened lines = (cutSections lines).2.map Section.key := by
  induction lines with
  | nil => rfl
  | cons line rest ih =>
    cases h : fileTarget? line with
    | some path =>
      rw [cutSections_cons_of_some h, List.map_cons, ← ih, opened,
        List.filterMap_cons_some (opened?_of_some h _)]
      rfl
    | none =>
      rw [cutSections_cons_of_none h, ← ih, opened,
        List.filterMap_cons_none (opened?_of_none h)]
      rfl

/-- The lines of a file are those of its sections, and before them those of the file that was
open. -/
theorem belonging_eq (key : String) (owner : Option String) (lines : List (List Char)) :
    belonging key owner lines =
      (if owner = some key then (cutSections lines).1 else []) ++
        ((cutSections lines).2.filter (·.key = key)).flatMap Section.lines := by
  induction lines generalizing owner with
  | nil => simp [belonging, cutSections]
  | cons line rest ih =>
    cases h : fileTarget? line with
    | some path =>
      have hopen := opened?_of_some h (line :: (cutSections rest).1)
      simp only [belonging, hopen, Option.some_or, ih, cutSections_cons_of_some h, Option.some_inj]
      by_cases hk : Section.key ⟨path, line :: (cutSections rest).1⟩ = key
      · simp [hk]
      · simp [hk]
    | none =>
      simp only [belonging, opened?_of_none h, Option.none_or, ih, cutSections_cons_of_none h]
      split <;> simp

theorem linesOf_eq (key : String) (diff : String) :
    linesOf key diff = (sectionsOf key diff.toList).flatMap Section.lines := by
  rw [linesOf, belonging_eq, if_neg (Option.some_ne_none key).symm, List.nil_append]
  rfl

/-! ### Sections and their blocks -/

/-- A section is written in its block as it is written in the diff. -/
theorem written_block {diff : List Char} {s : Section} (h : s ∈ sections diff) :
    written (splitLines s.block.toList) = written s.lines := by
  obtain ⟨kept, last, blanks, hlines, hlast, hblanks, -⟩ := exists_lines_eq_append_last h
  have hend : written [[]] = [] := rfl
  calc written (splitLines s.block.toList)
      = written (splitNewlines s.block.toList) := by
        rw [written, written, map_trimEnd_splitLines]
    _ = written (kept ++ [trimEnd last, []]) := by
        rw [splitNewlines_block h hlines hlast hblanks]
    _ = written kept ++ (written [last] ++ []) := by
        rw [List.append_cons, written_append, written_append, written_singleton_trimEnd, hend,
          List.append_assoc]
    _ = written s.lines := by
        rw [hlines, List.append_cons, written_append, written_append,
          written_of_allBlank hblanks, List.append_assoc]

/-- A section has at least its header. -/
theorem written_lines_ne_nil {diff : List Char} {s : Section} (h : s ∈ sections diff) :
    written s.lines ≠ [] := by
  obtain ⟨header, body, hs, hheader⟩ := exists_lines_eq_cons h
  have hblank := allBlank_of_fileTarget? hheader
  rw [hs, written, List.map_cons, List.filter_cons_of_pos]
  · exact List.cons_ne_nil _ _
  · rw [decide_eq_true_eq, ne_eq, trimEnd_eq_nil_iff, hblank]
    decide

/-- A file's block is that of its last section. -/
theorem get?_blocks (key : String) (diff : String) :
    (blocks diff).get? key = (sectionsOf key diff.toList).getLast?.map Section.block := by
  rw [blocks, Keyed.get?_ofList, List.filter_map, List.getLast?_map, Option.map_map]
  rfl

theorem written_blockLines (key : String) (diff : String) :
    written (blockLines key (blocks diff)) =
      ((sectionsOf key diff.toList).getLast?.map fun s => written s.lines).getD [] := by
  rw [blockLines, get?_blocks, Option.map_map]
  cases hlast : (sectionsOf key diff.toList).getLast? with
  | none => rfl
  | some s =>
    exact written_block (List.mem_filter.1 (List.mem_of_getLast? hlast)).1

/-! ### What is in the blocks -/

/-- A block has the lines that belong to its file, from some line on. -/
theorem written_blockLines_suffix (key : String) (diff : String) :
    written (blockLines key (blocks diff)) <:+ written (linesOf key diff) := by
  rw [written_blockLines, linesOf_eq, written_flatMap]
  rcases List.eq_nil_or_concat' (sectionsOf key diff.toList) with h | ⟨earlier, s, h⟩
  · rw [h]
    exact List.suffix_rfl
  · rw [h, List.getLast?_concat, List.flatMap_append, List.flatMap_singleton]
    exact List.suffix_append _ _

/-- Where a header opens a file for the last time, only one of the sections from there on is the
file's. -/
theorem exists_sectionsOf_eq_concat {key : String} {diff : String}
    {above below : List (List Char)} {header : List Char}
    (hlines : splitLines diff.toList = above ++ header :: below)
    (hopen : opened? header = some key) (hlast : key ∉ opened below) :
    ∃ earlier s, sectionsOf key diff.toList = earlier ++ [s] ∧
      belonging key none (header :: below) = s.lines := by
  obtain ⟨path, hpath, hkey⟩ := Option.map_eq_some_iff.1 hopen
  have hself : Section.key ⟨path, header :: (cutSections below).1⟩ = key := hkey
  have hbelow : (cutSections below).2.filter (·.key = key) = [] := by
    rw [List.filter_eq_nil_iff]
    intro s hs hk
    rw [opened_eq_map_key] at hlast
    exact hlast (List.mem_map.2 ⟨s, hs, of_decide_eq_true hk⟩)
  have hfrom : (cutSections (header :: below)).2.filter (·.key = key) =
      [⟨path, header :: (cutSections below).1⟩] := by
    simp [cutSections_cons_of_some hpath, hself, hbelow]
  refine ⟨(cutSections above).2.filter (·.key = key), ⟨path, header :: (cutSections below).1⟩,
    ?_, ?_⟩
  · rw [sectionsOf, sections, hlines, cutSections_append hpath, List.filter_append, hfrom]
  · rw [belonging_eq, if_neg (Option.some_ne_none _).symm, hfrom]
    simp

/-- The block of a file has what belongs to it from its last header on. -/
theorem written_blockLines_of_last {key : String} {diff : String} {above below : List (List Char)}
    {header : List Char} (hlines : splitLines diff.toList = above ++ header :: below)
    (hopen : opened? header = some key) (hlast : key ∉ opened below) :
    written (blockLines key (blocks diff)) = written (belonging key none (header :: below)) := by
  obtain ⟨earlier, s, hsections, hs⟩ := exists_sectionsOf_eq_concat hlines hopen hlast
  rw [written_blockLines, hsections, List.getLast?_concat, hs]
  rfl

/-- Nothing is lost of a file with one section. -/
theorem written_blockLines_eq_iff (key : String) (diff : String) :
    written (blockLines key (blocks diff)) = written (linesOf key diff) ↔
      (sectionsOf key diff.toList).length ≤ 1 := by
  rw [written_blockLines, linesOf_eq, written_flatMap]
  rcases List.eq_nil_or_concat' (sectionsOf key diff.toList) with h | ⟨earlier, s, h⟩
  · simp [h]
  · rw [h, List.getLast?_concat, List.flatMap_append, List.flatMap_singleton]
    have hlost : written s.lines = (earlier.flatMap fun t => written t.lines) ++ written s.lines ↔
        earlier.flatMap (fun t => written t.lines) = [] := List.self_eq_append_left
    refine hlost.trans ?_
    rw [List.flatMap_eq_nil_iff, List.length_append, List.length_singleton]
    constructor
    · intro hnil
      rcases earlier with - | ⟨t, earlier⟩
      · exact Nat.le_refl _
      · have ht : t ∈ sectionsOf key diff.toList := by
          rw [h]
          exact List.mem_append_left _ List.mem_cons_self
        exact absurd (hnil t List.mem_cons_self) (written_lines_ne_nil (List.mem_filter.1 ht).1)
    · intro hlen t ht
      have hpos := List.length_pos_of_mem ht
      omega

theorem nodup_opened_iff (diff : String) :
    (opened (splitLines diff.toList)).Nodup ↔
      ∀ key, (sectionsOf key diff.toList).length ≤ 1 := by
  rw [opened_eq_map_key, List.nodup_iff_count_le_one]
  refine forall_congr' fun key => ?_
  rw [List.count, List.countP_map, List.countP_eq_length_filter]
  rfl

theorem mem_keys_blocks (key : String) (diff : String) :
    key ∈ Keyed.keys (blocks diff) ↔ key ∈ opened (splitLines diff.toList) := by
  rw [blocks, Keyed.mem_keys_ofList, opened_eq_map_key, List.map_map]
  rfl

section
variable [StandIns]

theorem withoutExcluded_nil (blocks : Blocks) : withoutExcluded [] blocks = .ok blocks := by
  induction blocks with
  | nil => rfl
  | cons e rest ih =>
    obtain ⟨key, block⟩ := e
    rw [withoutExcluded, ih]
    rfl

/-- If nothing is left out, every file of a diff has one block, in which nothing is written but what
belongs to the file: all of it from the last header on that names the file. For all files it is all
there is exactly if no two headers name one file. -/
theorem keptBlocks_loses_nothing_iff (diff : String) :
    ∃ kept, keptBlocks [] diff = .ok kept ∧ (Keyed.keys kept).Nodup ∧
      (∀ key, key ∈ Keyed.keys kept ↔ key ∈ opened (splitLines diff.toList)) ∧
      (∀ key, written (blockLines key kept) <:+ written (linesOf key diff)) ∧
      (∀ key above header below, splitLines diff.toList = above ++ header :: below →
        opened? header = some key → key ∉ opened below →
          written (blockLines key kept) = written (belonging key none (header :: below))) ∧
      ((∀ key, written (blockLines key kept) = written (linesOf key diff)) ↔
        (opened (splitLines diff.toList)).Nodup) := by
  refine ⟨blocks diff, withoutExcluded_nil _, Keyed.nodup_keys_ofList _,
    fun key => mem_keys_blocks key diff, fun key => written_blockLines_suffix key diff,
    fun _ _ _ _ => written_blockLines_of_last, ?_⟩
  rw [nodup_opened_iff]
  exact forall_congr' fun key => written_blockLines_eq_iff key diff

end

end PatchReview.Diff
