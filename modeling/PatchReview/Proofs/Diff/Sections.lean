import Mathlib.Data.List.Induction
import PatchReview.Diff.Blocks
import PatchReview.Proofs.Text.Lines
import PatchReview.Proofs.Text.Scan
import PatchReview.Proofs.Text.Trimming

/-! The lines of a diff, its sections and its blocks.

A diff is what stands before its first file header and its sections, one after the other
(`flatten_cutSections`). A block has the lines of its section up to the last one that is not blank,
and that one trimmed (`splitLines_block`). With sections of different names nothing is lost: there
is one block for each (`blocks_of_nodup`). -/
namespace PatchReview.Diff

open Text

/-! ### Cutting -/

theorem cutSections_cons_of_some {line path : List Char} (h : fileTarget? line = some path)
    (rest : List (List Char)) : cutSections (line :: rest) =
      ([], ⟨path, line :: (cutSections rest).1⟩ :: (cutSections rest).2) := by
  rw [cutSections, h]

theorem cutSections_cons_of_none {line : List Char} (h : fileTarget? line = none)
    (rest : List (List Char)) :
    cutSections (line :: rest) = (line :: (cutSections rest).1, (cutSections rest).2) := by
  rw [cutSections, h]

theorem flatten_cutSections (lines : List (List Char)) :
    (cutSections lines).1 ++ (cutSections lines).2.flatMap Section.lines = lines := by
  induction lines with
  | nil => rfl
  | cons line rest ih =>
    cases h : fileTarget? line with
    | some path =>
      rw [cutSections_cons_of_some h, List.flatMap_cons, List.nil_append, List.cons_append, ih]
    | none => rw [cutSections_cons_of_none h, List.cons_append, ih]

/-- Lines without a file header stay in front. -/
theorem cutSections_append_of_none {above : List (List Char)}
    (h : ∀ line ∈ above, fileTarget? line = none) (rest : List (List Char)) :
    cutSections (above ++ rest) = (above ++ (cutSections rest).1, (cutSections rest).2) := by
  induction above with
  | nil => rfl
  | cons line above ih =>
    rw [List.cons_append, cutSections_cons_of_none (h line List.mem_cons_self),
      ih fun l hl => h l (List.mem_cons_of_mem _ hl), List.cons_append]

/-- A file header ends the last section before it. -/
theorem cutSections_append {header path : List Char} (h : fileTarget? header = some path)
    (above below : List (List Char)) :
    cutSections (above ++ header :: below) =
      ((cutSections above).1, (cutSections above).2 ++ (cutSections (header :: below)).2) := by
  induction above with
  | nil =>
    rw [List.nil_append, cutSections_cons_of_some h]
    rfl
  | cons line above ih =>
    cases hl : fileTarget? line with
    | some target =>
      rw [List.cons_append, cutSections_cons_of_some hl, cutSections_cons_of_some hl, ih,
        List.cons_append]
    | none =>
      rw [List.cons_append, cutSections_cons_of_none hl, cutSections_cons_of_none hl, ih]

/-- A section starts with its file header. -/
theorem exists_lines_eq_cons {lines : List (List Char)} {s : Section}
    (h : s ∈ (cutSections lines).2) :
    ∃ header body, s.lines = header :: body ∧ fileTarget? header = some s.path := by
  induction lines with
  | nil => exact absurd h List.not_mem_nil
  | cons line rest ih =>
    cases hl : fileTarget? line with
    | some path =>
      rw [cutSections_cons_of_some hl] at h
      rcases List.mem_cons.1 h with rfl | h
      · exact ⟨line, _, rfl, hl⟩
      · exact ih h
    | none =>
      rw [cutSections_cons_of_none hl] at h
      exact ih h

theorem mem_of_mem_section {lines : List (List Char)} {s : Section} (h : s ∈ (cutSections lines).2)
    {line : List Char} (hl : line ∈ s.lines) : line ∈ lines := by
  rw [← flatten_cutSections lines]
  exact List.mem_append_right _ (List.mem_flatMap.2 ⟨s, h, hl⟩)

theorem fileTarget?_cons_of_ne {c : Char} (h : 'd' ≠ c) (s : List Char) :
    fileTarget? (c :: s) = none := by
  rw [fileTarget?, show "diff --git a/".toList = 'd' :: "iff --git a/".toList from rfl,
    after?_cons_of_ne h]
  rfl

theorem allBlank_of_fileTarget? {line path : List Char} (h : fileTarget? line = some path) :
    allBlank line = false := by
  cases line with
  | nil => exact absurd h (by simp [fileTarget?, after?])
  | cons c s =>
    by_cases hc : 'd' = c
    · subst hc
      rfl
    · rw [fileTarget?_cons_of_ne hc] at h
      exact absurd h (Option.some_ne_none _).symm

/-! ### The last line of a section -/

/-- The last line of a section that is not blank. -/
def Section.last? (s : Section) : Option (List Char) :=
  (s.lines.filter fun line => !allBlank line).getLast?

/-- Up to the last line that is not blank, and from there on. -/
theorem exists_eq_append_last {lines : List (List Char)}
    (h : ∃ line ∈ lines, allBlank line = false) :
    ∃ kept last blanks, lines = kept ++ last :: blanks ∧ allBlank last = false ∧
      (∀ line ∈ blanks, allBlank line = true) ∧
      (lines.filter fun line => !allBlank line).getLast? = some last := by
  induction lines using List.reverseRecOn with
  | nil => exact absurd h (by simp)
  | append_singleton lines line ih =>
    cases hl : allBlank line with
    | false =>
      refine ⟨lines, line, [], rfl, hl, fun _ hm => absurd hm List.not_mem_nil, ?_⟩
      simp [hl]
    | true =>
      obtain ⟨l, hm, hb⟩ := h
      have hmem : l ∈ lines := by
        rcases List.mem_append.1 hm with hm | hm
        · exact hm
        · rw [List.mem_singleton.1 hm, hl] at hb
          exact absurd hb (by decide)
      obtain ⟨kept, last, blanks, rfl, hlast, hblanks, hget⟩ := ih ⟨l, hmem, hb⟩
      refine ⟨kept, last, blanks ++ [line], by simp, hlast, ?_, ?_⟩
      · intro b hb
        rcases List.mem_append.1 hb with hb | hb
        · exact hblanks b hb
        · rw [List.mem_singleton.1 hb, hl]
      · rw [List.filter_append]
        simpa [hl] using hget

theorem exists_lines_eq_append_last {lines : List (List Char)} {s : Section}
    (h : s ∈ (cutSections lines).2) :
    ∃ kept last blanks, s.lines = kept ++ last :: blanks ∧ allBlank last = false ∧
      (∀ line ∈ blanks, allBlank line = true) ∧ s.last? = some last := by
  obtain ⟨header, body, hs, hheader⟩ := exists_lines_eq_cons h
  exact exists_eq_append_last
    ⟨header, hs ▸ List.mem_cons_self, allBlank_of_fileTarget? hheader⟩

/-! ### Blocks -/

theorem allBlank_joinLines {blanks : List (List Char)} (h : ∀ line ∈ blanks, allBlank line = true) :
    allBlank (joinLines blanks) = true := by
  rw [allBlank, List.all_eq_true]
  intro c hc
  rcases mem_joinLines hc with rfl | ⟨line, hl, hc⟩
  · decide
  · exact List.all_eq_true.1 (h line hl) c hc

/-- Trimming takes the blank lines at the end, and goes on with the last line before them. -/
theorem trimEnd_joinLines {kept blanks : List (List Char)} {last : List Char}
    (hlast : allBlank last = false) (hblanks : ∀ line ∈ blanks, allBlank line = true) :
    trimEnd (joinLines (kept ++ last :: blanks)) = joinLines (kept ++ [trimEnd last]) := by
  have hend : trimEnd (joinLines (last :: blanks)) = trimEnd last := by
    cases blanks with
    | nil => rfl
    | cons b bs =>
      rw [joinLines_cons last (List.cons_ne_nil b bs)]
      refine trimEnd_append_of_allBlank last ?_
      rw [allBlank, List.all_cons, Bool.and_eq_true]
      exact ⟨by decide, allBlank_joinLines hblanks⟩
  have hne : trimEnd (joinLines (last :: blanks)) ≠ [] := by
    rw [hend, ne_eq, trimEnd_eq_nil_iff, hlast]
    decide
  rw [joinLines_append kept (List.cons_ne_nil _ _), trimEnd_append_of_ne_nil _ hne, hend,
    joinLines_append kept (List.cons_ne_nil _ _)]
  rfl

theorem newline_notMem_section {diff : List Char} {s : Section} (h : s ∈ sections diff)
    {line : List Char} (hl : line ∈ s.lines) : '\n' ∉ line :=
  newline_notMem_of_mem_splitLines (mem_of_mem_section h hl)

theorem toList_block {s : Section} {kept blanks : List (List Char)} {last : List Char}
    (hs : s.lines = kept ++ last :: blanks) (hlast : allBlank last = false)
    (hblanks : ∀ line ∈ blanks, allBlank line = true) :
    s.block.toList = joinLines (kept ++ [trimEnd last, []]) := by
  rw [Section.block, String.toList_ofList, hs, trimEnd_joinLines hlast hblanks,
    joinLines_append kept (List.cons_ne_nil _ _), joinLines_append kept (List.cons_ne_nil _ _),
    List.append_assoc]
  rfl

/-- The lines of a block, cut at newlines only. -/
theorem splitNewlines_block {diff : List Char} {s : Section} (h : s ∈ sections diff)
    {kept blanks : List (List Char)} {last : List Char} (hs : s.lines = kept ++ last :: blanks)
    (hlast : allBlank last = false) (hblanks : ∀ line ∈ blanks, allBlank line = true) :
    splitNewlines s.block.toList = kept ++ [trimEnd last, []] := by
  have hmem : ∀ line ∈ s.lines, '\n' ∉ line := fun _ hl => newline_notMem_section h hl
  rw [toList_block hs hlast hblanks]
  refine splitNewlines_joinLines (by simp) fun line hl => ?_
  rcases List.mem_append.1 hl with hl | hl
  · exact hmem line (hs ▸ List.mem_append_left _ hl)
  · simp only [List.mem_cons, List.not_mem_nil, or_false] at hl
    rcases hl with rfl | rfl
    · have hl := hmem last (hs ▸ List.mem_append_right _ List.mem_cons_self)
      exact fun hm => hl (mem_of_mem_trimEnd hm)
    · exact List.not_mem_nil

/-- No block of a text without carriage returns holds one. -/
theorem return_notMem_block {diff : List Char} (hr : '\r' ∉ diff) {s : Section}
    (h : s ∈ sections diff) : '\r' ∉ s.block.toList := by
  intro hm
  rw [Section.block, String.toList_ofList, List.mem_append] at hm
  rcases hm with hm | hm
  · rcases mem_joinLines (mem_of_mem_trimEnd hm) with hm | ⟨line, hl, hm⟩
    · exact absurd hm (by decide)
    · exact hr (mem_of_mem_splitLines (mem_of_mem_section h hl) _ hm)
  · exact absurd hm (by decide)

/-- The lines of a block. -/
theorem splitLines_block {diff : List Char} (hr : '\r' ∉ diff) {s : Section}
    (h : s ∈ sections diff) {kept blanks : List (List Char)} {last : List Char}
    (hs : s.lines = kept ++ last :: blanks) (hlast : allBlank last = false)
    (hblanks : ∀ line ∈ blanks, allBlank line = true) :
    splitLines s.block.toList = kept ++ [trimEnd last, []] := by
  rw [splitLines_eq_splitNewlines _ (return_notMem_block hr h),
    splitNewlines_block h hs hlast hblanks]

theorem mem_of_mem_block {diff : String} {e : String × String} (h : e ∈ blocks diff) :
    ∀ c ∈ e.2.toList, c ∈ diff.toList ∨ c = '\n' := by
  obtain ⟨s, hs, rfl⟩ := List.mem_map.1 (Keyed.mem_ofList h)
  intro c hc
  simp only [Section.block, String.toList_ofList, List.mem_append, List.mem_singleton] at hc
  rcases hc with hc | rfl
  · rcases mem_joinLines (mem_of_mem_trimEnd hc) with rfl | ⟨line, hl, hc⟩
    · exact .inr rfl
    · exact .inl (mem_of_mem_splitLines (mem_of_mem_section hs hl) c hc)
  · exact .inr rfl

/-- Sections of different names have a block each. -/
theorem blocks_of_nodup {diff : String}
    (h : ((sections diff.toList).map Section.key).Nodup) :
    blocks diff = (sections diff.toList).map fun s => (s.key, s.block) := by
  refine Keyed.foldl_alter_of_nodup (f := fun e _ => e.2) (fun _ => rfl) ?_
  simpa [Keyed.keys, Function.comp_def] using h

end PatchReview.Diff
