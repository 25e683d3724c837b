import PatchReview.Proofs.Diff.Reading
import PatchReview.Proofs.Diff.Removal

/-! Filtering a diff before it is cut into blocks.

Only added lines are not worth a review, and none of them is a header of any kind. So a filtered
diff has the sections of the diff, each without these lines (`sections_withoutTrivial`), and the
first hunk of a block starts where it did (`starts_blocks_withoutTrivial`). Files are left out by
their names, so that this holds whichever they are (`withoutTrivial_keeps_structure`). -/
namespace PatchReview.Diff

open Text
open Budget (isTrivial withoutTrivial)

/-! ### Lines that stay -/

/-- A line that is not added, or that is written as the header of a target. -/
def isStructural (line : List Char) : Bool :=
  !startsWith ['+'] line || startsWith ['+', '+', '+', ' '] line

theorem isTrivial_of_ne {c : Char} (h : c ≠ '+') (s : List Char) : isTrivial (c :: s) = false := by
  unfold isTrivial
  split
  · rename_i heq
    exact absurd (List.cons.inj heq).1 h
  · rfl

theorem isTrivial_plus (s : List Char) : isTrivial ('+' :: '+' :: s) = false := rfl

theorem isTrivial_of_isStructural {line : List Char} (h : isStructural line = true) :
    isTrivial line = false := by
  rw [isStructural, Bool.or_eq_true, Bool.not_eq_true'] at h
  rcases h with hadded | htarget
  · cases line with
    | nil => rfl
    | cons c s =>
      refine isTrivial_of_ne ?_ s
      rintro rfl
      exact absurd (hadded.symm.trans ((startsWith_iff ['+'] _).2 ⟨s, rfl⟩)) (by decide)
  · obtain ⟨rest, rfl⟩ := (startsWith_iff _ _).1 htarget
    exact isTrivial_plus _

/-- The lines of a filtered diff; where none is left the text still has one, which is empty. -/
theorem splitNewlines_withoutTrivial (diff : String) :
    splitNewlines (withoutTrivial diff).toList =
        (splitNewlines diff.toList).filter (!isTrivial ·) ∨
      ((splitNewlines diff.toList).filter (!isTrivial ·) = [] ∧ withoutTrivial diff = "") := by
  rcases eq_or_ne ((splitNewlines diff.toList).filter (!isTrivial ·)) [] with hnil | hne
  · refine .inr ⟨hnil, ?_⟩
    rw [withoutTrivial, hnil]
    rfl
  · refine .inl ?_
    rw [withoutTrivial, String.toList_ofList]
    exact splitNewlines_joinLines hne fun line hl =>
      (mem_of_mem_splitNewlines (List.mem_filter.1 hl).1).1

theorem filter_isStructural_sublist (diff : String) :
    ((splitNewlines diff.toList).filter isStructural).Sublist
      (splitNewlines (withoutTrivial diff).toList) := by
  have hkept : ((splitNewlines diff.toList).filter isStructural).Sublist
      ((splitNewlines diff.toList).filter (!isTrivial ·)) :=
    List.monotone_filter_right _ fun line hl => by simp [isTrivial_of_isStructural hl]
  rcases splitNewlines_withoutTrivial diff with hsplit | ⟨hnil, -⟩
  · rwa [hsplit]
  · rw [hnil, List.sublist_nil] at hkept
    rw [hkept]
    exact List.nil_sublist _

/-- What is filtered has nothing left to filter. -/
theorem withoutTrivial_withoutTrivial (diff : String) :
    withoutTrivial (withoutTrivial diff) = withoutTrivial diff := by
  rcases splitNewlines_withoutTrivial diff with hsplit | ⟨-, hempty⟩
  · rw [withoutTrivial, hsplit, List.filter_filter]
    simp only [Bool.and_self]
    rfl
  · rw [hempty]
    rfl

/-! ### Sections -/

/-- A section without the lines that are not worth a review. -/
def Section.filtered (s : Section) : Section := ⟨s.path, s.lines.filter (!isTrivial ·)⟩

/-- It makes no difference whether lines are filtered or cut into sections first. -/
theorem cutSections_filter (lines : List (List Char)) :
    cutSections (lines.filter (!isTrivial ·)) =
      ((cutSections lines).1.filter (!isTrivial ·),
        (cutSections lines).2.map Section.filtered) := by
  induction lines with
  | nil => rfl
  | cons line rest ih =>
    cases h : fileTarget? line with
    | some path =>
      have hstays : isTrivial line = false := by
        by_contra htrivial
        rw [Bool.not_eq_false] at htrivial
        rw [fileTarget?_of_isTrivial htrivial] at h
        exact absurd h (Option.some_ne_none path).symm
      rw [List.filter_cons_of_pos (by simp [hstays]), cutSections_cons_of_some h,
        cutSections_cons_of_some h, ih, List.map_cons, Section.filtered,
        List.filter_cons_of_pos (by simp [hstays])]
      rfl
    | none =>
      rw [cutSections_cons_of_none h]
      cases ht : isTrivial line with
      | true =>
        rw [List.filter_cons_of_neg (by simp [ht]), ih, List.filter_cons_of_neg (by simp [ht])]
      | false =>
        rw [List.filter_cons_of_pos (by simp [ht]), cutSections_cons_of_none h, ih,
          List.filter_cons_of_pos (by simp [ht])]

theorem return_notMem_withoutTrivial {diff : String} (hr : '\r' ∉ diff.toList) :
    '\r' ∉ (withoutTrivial diff).toList := by
  intro hm
  rw [withoutTrivial, String.toList_ofList] at hm
  rcases mem_joinLines hm with hm | ⟨line, hl, hm⟩
  · exact absurd hm (by decide)
  · exact hr ((mem_of_mem_splitNewlines (List.mem_filter.1 hl).1).2 _ hm)

theorem sections_withoutTrivial {diff : String} (hr : '\r' ∉ diff.toList) :
    sections (withoutTrivial diff).toList = (sections diff.toList).map Section.filtered := by
  have hcut : (cutSections ((splitNewlines diff.toList).filter (!isTrivial ·))).2 =
      (cutSections (splitNewlines diff.toList)).2.map Section.filtered := by
    rw [cutSections_filter]
  rw [sections, sections, splitLines_eq_splitNewlines _ hr,
    splitLines_eq_splitNewlines _ (return_notMem_withoutTrivial hr)]
  rcases splitNewlines_withoutTrivial diff with hsplit | ⟨hnil, hempty⟩
  · rw [hsplit, hcut]
  · rw [hnil] at hcut
    rw [hempty]
    exact hcut

/-! ### Where hunks start -/

/-- A block has the first hunk of its section. -/
theorem firstStart?_block {diff : List Char} (hr : '\r' ∉ diff) {s : Section}
    (hs : s ∈ sections diff) : firstStart? s.block = s.lines.findSome? hunkStart? := by
  obtain ⟨kept, last, blanks, hlines, hlast, hblanks, -⟩ := exists_lines_eq_append_last hs
  have hnone : blanks.findSome? hunkStart? = none :=
    List.findSome?_eq_none_iff.2 fun line hl =>
      (AddedLines.Place.isIdle_of_allBlank (hblanks line hl)).2.1
  rw [firstStart?, splitLines_block hr hs hlines hlast hblanks, hlines]
  simp only [List.findSome?_append, List.findSome?_cons, hunkStart?_trimEnd, hnone,
    AddedLines.Place.isIdle_nil.2.1, List.findSome?_nil]

theorem findSome?_filter_hunkStart? (lines : List (List Char)) :
    (lines.filter (!isTrivial ·)).findSome? hunkStart? = lines.findSome? hunkStart? := by
  induction lines with
  | nil => rfl
  | cons line rest ih =>
    cases ht : isTrivial line with
    | false =>
      rw [List.filter_cons_of_pos (by simp [ht]), List.findSome?_cons, List.findSome?_cons, ih]
    | true =>
      have hadded : hunkStart? line = none := by
        cases line with
        | nil => rfl
        | cons c s =>
          refine hunkStart?_cons_of_ne ?_ s
          rintro rfl
          rw [isTrivial_of_ne (by decide)] at ht
          exact absurd ht Bool.false_ne_true
      rw [List.filter_cons_of_neg (by simp [ht]), ih, List.findSome?_cons, hadded]

/-- The names of blocks, and where their first hunks start. -/
def starts (blocks : Blocks) : List (String × Except NumeralError Nat) :=
  blocks.map fun e => (e.1, startLine e.2)

theorem startLine_filtered {diff : String} (hr : '\r' ∉ diff.toList) {s : Section}
    (hs : s ∈ sections diff.toList) : startLine s.filtered.block = startLine s.block := by
  have hfiltered : s.filtered ∈ sections (withoutTrivial diff).toList := by
    rw [sections_withoutTrivial hr]
    exact List.mem_map_of_mem hs
  have hfirst : firstStart? s.filtered.block = firstStart? s.block := by
    rw [firstStart?_block (return_notMem_withoutTrivial hr) hfiltered, firstStart?_block hr hs,
      Section.filtered, findSome?_filter_hunkStart?]
  rw [startLine, startLineWithin, startLineWithin, hfirst]

theorem starts_blocks_withoutTrivial {diff : String} (hr : '\r' ∉ diff.toList) :
    starts (blocks (withoutTrivial diff)) = starts (blocks diff) := by
  rw [starts, starts, blocks, blocks, Keyed.map_ofList, Keyed.map_ofList,
    sections_withoutTrivial hr, List.map_map, List.map_map, List.map_map]
  refine congrArg Keyed.ofList (List.map_congr_left fun s hs => ?_)
  exact congrArg (Prod.mk s.key) (startLine_filtered hr hs)

/-- **Filtering keeps the structure.** Whatever files are left out, a diff without the lines that
are not worth a review has the blocks of the diff, by name and in order, and their first hunks start
where they did. Every line stays that is not added or is written as the header of a target, no line
is new, and there is nothing to filter twice. -/
theorem withoutTrivial_keeps_structure [StandIns] {diff : String} (hr : '\r' ∉ diff.toList) :
    (∀ patterns : List String, (∀ p ∈ patterns, Compiles p) → ∃ kept filtered,
      keptBlocks patterns diff = .ok kept ∧
        keptBlocks patterns (withoutTrivial diff) = .ok filtered ∧ starts filtered = starts kept) ∧
    ((splitNewlines diff.toList).filter isStructural).Sublist
      (splitNewlines (withoutTrivial diff).toList) ∧
    ((splitNewlines (withoutTrivial diff).toList).Sublist (splitNewlines diff.toList) ∨
      withoutTrivial diff = "") ∧
    withoutTrivial (withoutTrivial diff) = withoutTrivial diff := by
  refine ⟨fun patterns hpatterns => ?_, filter_isStructural_sublist diff, ?_,
    withoutTrivial_withoutTrivial diff⟩
  · refine ⟨_, _, withoutExcluded_eq_filter hpatterns _, withoutExcluded_eq_filter hpatterns _, ?_⟩
    have hleft (bs : Blocks) : starts (bs.filter fun e => !leavesOut patterns e.1) =
        (starts bs).filter fun e => !leavesOut patterns e.1 := by
      rw [starts, starts, List.filter_map]
      rfl
    rw [hleft, hleft, starts_blocks_withoutTrivial hr]
  · refine (splitNewlines_withoutTrivial diff).imp (fun hsplit => ?_) And.right
    rw [hsplit]
    exact List.filter_sublist

/-- A file is left out, and the other one loses all that its only hunk adds. -/
theorem withoutTrivial_keeps_structure_hunk :
    letI : StandIns := ⟨.besides []⟩
    let diff :=
      "diff --git a/x b/x\n+\ndiff --git a/y.py b/y.py\n+++ b/y.py\n@@ -1 +2 @@\n+# TODO\n"
    let pattern := String.ofList (shape ['x'])
    '\r' ∉ diff.toList ∧ (∀ p ∈ [pattern], Compiles p) ∧
      withoutTrivial diff =
        "diff --git a/x b/x\ndiff --git a/y.py b/y.py\n+++ b/y.py\n@@ -1 +2 @@\n" ∧
      ∃ kept filtered, keptBlocks [pattern] diff = .ok kept ∧
        keptBlocks [pattern] (withoutTrivial diff) = .ok filtered ∧
          starts filtered = starts kept := by
  let _ : StandIns := ⟨.besides []⟩
  intro diff pattern
  have hr : '\r' ∉ diff.toList := by decide
  have hpatterns : ∀ p ∈ [pattern], Compiles p := fun p hp => by
    obtain ⟨pieces, hcompile, -⟩ := compile_shape ['x']
    rw [List.mem_singleton.1 hp]
    exact ⟨_, hcompile⟩
  obtain ⟨hkeeps, -⟩ := withoutTrivial_keeps_structure hr
  exact ⟨hr, hpatterns, by decide, hkeeps [pattern] hpatterns⟩

end PatchReview.Diff
