import PatchReview.Budget.Trivial
import PatchReview.Proofs.Diff.Reading
import PatchReview.Proofs.Diff.Sections
import PatchReview.Proofs.Text.Encoding
import PatchReview.Proofs.Text.Numeral

/-! What is read from a diff stands in it.

A line of a block is a line of the diff, but for the blanks behind it (`LinesFrom`), so that every
hunk header of a block is one of the diff (`exists_hunk_of_block`). The files and the contents of
added lines have their characters from the lines of the diff, so that they can be written if the
diff can (`isWhole_of_mem_ofLines`). -/
namespace PatchReview.Diff

open Text

/-! ### Lines -/

/-- Every line of a text that is not blank is a line of another, but for the blanks behind it. -/
def LinesFrom (s t : List Char) : Prop :=
  ∀ line ∈ splitLines s, trimEnd line = [] ∨ ∃ line' ∈ splitLines t, trimEnd line = trimEnd line'

theorem LinesFrom.trans {s t u : List Char} (hst : LinesFrom s t) (htu : LinesFrom t u) :
    LinesFrom s u := by
  intro line hl
  rcases hst line hl with hblank | ⟨line', hl', heq⟩
  · exact .inl hblank
  · rcases htu line' hl' with hblank | ⟨line'', hl'', heq'⟩
    · exact .inl (heq.trans hblank)
    · exact .inr ⟨line'', hl'', heq.trans heq'⟩

/-- It does not matter how the texts are cut. -/
theorem linesFrom_of_splitNewlines {s t : List Char}
    (h : ∀ line ∈ splitNewlines s,
      trimEnd line = [] ∨ ∃ line' ∈ splitNewlines t, trimEnd line = trimEnd line') :
    LinesFrom s t := by
  intro line hl
  have hmem : trimEnd line ∈ (splitNewlines s).map trimEnd := by
    rw [← map_trimEnd_splitLines]
    exact List.mem_map.2 ⟨line, hl, rfl⟩
  obtain ⟨cut, hcut, heq⟩ := List.mem_map.1 hmem
  rcases h cut hcut with hblank | ⟨line', hl', heq'⟩
  · exact .inl (heq.symm.trans hblank)
  · have hmem' : trimEnd line' ∈ (splitLines t).map trimEnd := by
      rw [map_trimEnd_splitLines]
      exact List.mem_map.2 ⟨line', hl', rfl⟩
    obtain ⟨line'', hl'', heq''⟩ := List.mem_map.1 hmem'
    exact .inr ⟨line'', hl'', heq.symm.trans (heq'.trans heq''.symm)⟩

theorem linesFrom_withoutTrivial (diff : String) :
    LinesFrom (Budget.withoutTrivial diff).toList diff.toList := by
  refine linesFrom_of_splitNewlines fun line hl => ?_
  rw [Budget.withoutTrivial, String.toList_ofList] at hl
  rcases eq_or_ne ((splitNewlines diff.toList).filter (!Budget.isTrivial ·)) [] with hnil | hne
  · rw [hnil] at hl
    rw [List.mem_singleton.1 hl]
    exact .inl rfl
  · rw [splitNewlines_joinLines hne fun l hm =>
      (mem_of_mem_splitNewlines (List.mem_filter.1 hm).1).1] at hl
    exact .inr ⟨line, (List.mem_filter.1 hl).1, rfl⟩

theorem linesFrom_block {diff : String} {e : String × String} (h : e ∈ blocks diff) :
    LinesFrom e.2.toList diff.toList := by
  obtain ⟨s, hs, rfl⟩ := List.mem_map.1 (Keyed.mem_ofList h)
  obtain ⟨kept, last, blanks, hlines, hlast, hblanks, -⟩ := exists_lines_eq_append_last hs
  have hsection : ∀ line ∈ s.lines, ∃ line' ∈ splitLines diff.toList,
      trimEnd line = trimEnd line' := fun line hl => ⟨line, mem_of_mem_section hs hl, rfl⟩
  intro line hl
  have hmem : trimEnd line ∈ (kept ++ [trimEnd last, []]).map trimEnd := by
    rw [← splitNewlines_block hs hlines hlast hblanks, ← map_trimEnd_splitLines]
    exact List.mem_map.2 ⟨line, hl, rfl⟩
  obtain ⟨cut, hcut, heq⟩ := List.mem_map.1 hmem
  rw [← heq]
  rcases List.mem_append.1 hcut with hkept | hcut
  · exact .inr (hsection cut (hlines ▸ List.mem_append_left _ hkept))
  · simp only [List.mem_cons, List.not_mem_nil, or_false] at hcut
    rcases hcut with rfl | rfl
    · rw [trimEnd_trimEnd]
      exact .inr (hsection last (hlines ▸ List.mem_append_right _ List.mem_cons_self))
    · exact .inl rfl

/-! ### File headers -/

theorem mem_of_mem_targetOfPair? {s path : List Char} (h : targetOfPair? s = some path) {c : Char}
    (hc : c ∈ path) : c ∈ s := by
  induction s with
  | nil => exact absurd h (Option.some_ne_none path).symm
  | cons d s ih =>
    unfold targetOfPair? at h
    split at h
    · rename_i p rest hafter
      obtain rfl := Option.some.inj h
      rw [(after?_eq_some_iff _ _ _).1 hafter]
      exact List.mem_append_right _ hc
    · exact List.mem_cons_of_mem _ (ih h)

/-- A file header has the characters of its target. -/
theorem mem_of_mem_fileTarget? {line path : List Char} (h : fileTarget? line = some path) {c : Char}
    (hc : c ∈ path) : c ∈ line := by
  obtain ⟨rest, hafter, hpair⟩ := Option.bind_eq_some_iff.1 h
  rw [(after?_eq_some_iff _ _ _).1 hafter]
  refine List.mem_append_right _ ?_
  cases rest with
  | nil => exact absurd hpair (Option.some_ne_none path).symm
  | cons first rest => exact List.mem_cons_of_mem _ (mem_of_mem_targetOfPair? hpair hc)

/-- The names of the blocks of a diff that can be written can be written. -/
theorem isWhole_key_of_mem_blocks [StandIns] {diff : String} (h : IsWhole diff.toList)
    {e : String × String} (he : e ∈ blocks diff) : IsWhole e.1.toList := by
  have hmark : IsWhole "b/".toList := isWhole_of_isAssigned (by decide)
  obtain ⟨s, hs, rfl⟩ := List.mem_map.1 (Keyed.mem_ofList he)
  obtain ⟨header, body, hlines, hheader⟩ := exists_lines_eq_cons hs
  refine hmark.append fun c hc => ?_
  rw [String.toList_ofList] at hc
  have hline : header ∈ splitLines diff.toList :=
    mem_of_mem_section hs (hlines ▸ List.mem_cons_self)
  exact h c (mem_of_mem_splitLines hline c (mem_of_mem_fileTarget? hheader hc))

/-! ### Hunk headers -/

/-- Hunk headers end in a character that is not blank, so they are taken over. -/
theorem LinesFrom.exists_hunk {s t : List Char} (h : LinesFrom s t) {line digits : List Char}
    (hl : line ∈ splitLines s) (hhunk : hunkStart? line = some digits) :
    ∃ line' ∈ splitLines t, hunkStart? line' = some digits := by
  rw [← hunkStart?_trimEnd] at hhunk
  rcases h line hl with hblank | ⟨line', hl', heq⟩
  · rw [hblank] at hhunk
    exact absurd hhunk (Option.some_ne_none digits).symm
  · rw [heq, hunkStart?_trimEnd] at hhunk
    exact ⟨line', hl', hhunk⟩

/-- A hunk header whose start has more digits than may be read. -/
structure HasLongStart (limit : Nat) (lines : List (List Char)) (digits : List Char) : Prop where
  exists_hunk : ∃ line ∈ lines, hunkStart? line = some digits
  lt_length : limit < digits.length

theorem exists_long_of_startLineWithin {limit : Nat} {block : String} {e : NumeralError}
    (h : startLineWithin (some limit) block = .error e) :
    ∃ digits, HasLongStart limit (splitLines block.toList) digits ∧ e = .tooLong digits.length := by
  unfold startLineWithin at h
  split at h
  · exact absurd h (by simp)
  · rename_i digits hfirst
    obtain ⟨line, hl, hhunk⟩ := List.exists_of_findSome?_eq_some hfirst
    have ⟨he, hlong⟩ := readNaturalWithin_eq_error h
    exact ⟨digits, ⟨⟨line, hl, hhunk⟩, hlong⟩, he⟩

theorem isWritable_of_startLine {block : String} {start : Nat}
    (h : startLineWithin (some digitLimit) block = .ok start) : isWritable start = true := by
  unfold startLineWithin at h
  split at h
  · obtain rfl := Except.ok.inj h
    exact isWritable_of_readNatural (show readNatural [] = .ok 0 from rfl)
  · exact isWritable_of_readNatural h

/-- A block whose start has too many digits has it from the diff. -/
theorem exists_hunk_of_block {diff : String} {limit : Nat} {entry : String × String}
    (hentry : entry ∈ blocks (Budget.withoutTrivial diff)) {e : NumeralError}
    (h : startLineWithin (some limit) entry.2 = .error e) :
    ∃ digits, HasLongStart limit (splitLines diff.toList) digits ∧ e = .tooLong digits.length := by
  obtain ⟨digits, ⟨⟨line, hl, hhunk⟩, hlt⟩, he⟩ := exists_long_of_startLineWithin h
  have hlines := (linesFrom_block hentry).trans (linesFrom_withoutTrivial diff)
  exact ⟨digits, ⟨hlines.exists_hunk hl hhunk, hlt⟩, he⟩

end PatchReview.Diff

namespace PatchReview.AddedLines

open Diff Text

theorem exists_long_of_ofDiff {diff : String} {e : NumeralError} (h : ofDiff diff = .error e) :
    ∃ digits, HasLongStart digitLimit (splitLines diff.toList) digits ∧
      e = .tooLong digits.length := by
  simp only [ofDiff] at h
  split at h
  · rename_i n hn
    obtain ⟨digits, hdigits, hlong⟩ := List.exists_of_findSome?_eq_some hn
    obtain ⟨line, hl, hhunk⟩ := List.mem_filterMap.1 hdigits
    split at hlong
    · rename_i hlt
      obtain rfl := Option.some.inj hlong
      exact ⟨digits, ⟨⟨line, hl, hhunk⟩, hlt⟩, (Except.error.inj h).symm⟩
    · exact absurd hlong (Option.some_ne_none n).symm
  · exact absurd h (by simp)

theorem ofDiff_eq_ok {diff : String} {files : AddedLines} (h : ofDiff diff = .ok files) :
    files = ofLines (splitLines diff.toList) := by
  simp only [ofDiff] at h
  split at h
  · exact absurd h (by simp)
  · exact (Except.ok.inj h).symm

/-! ### Characters -/

/-- A target header has the characters of its path. -/
theorem mem_of_mem_targetPath? {line path : List Char} (h : targetPath? line = some path) {c : Char}
    (hc : c ∈ path) : c ∈ line := by
  obtain ⟨_, _⟩ := (targetPath?_eq_some_iff line path).1 h
  simp [hc]

variable [StandIns]

/-- The files and contents that were read can be written. -/
structure Cursor.HasWholeTexts (c : Cursor) : Prop where
  files : ∀ e ∈ c.files, IsWhole e.1.toList ∧ ∀ added ∈ e.2, IsWhole added.content.toList
  file : IsWhole (c.file.getD "").toList

theorem hasWholeTexts_start : Cursor.start.HasWholeTexts :=
  ⟨fun _ he => absurd he List.not_mem_nil, fun _ hc => absurd hc List.not_mem_nil⟩

/-- What is added to a file under a whole name keeps the files whole. -/
theorem isWhole_alter {files : AddedLines}
    (h : ∀ e ∈ files, IsWhole e.1.toList ∧ ∀ added ∈ e.2, IsWhole added.content.toList)
    {path : String} (hpath : IsWhole path.toList) {more : List AddedLine}
    (hmore : ∀ added ∈ more, IsWhole added.content.toList) :
    ∀ e ∈ Keyed.alter path (fun lines => lines.getD [] ++ more) files,
      IsWhole e.1.toList ∧ ∀ added ∈ e.2, IsWhole added.content.toList := by
  intro e he
  rcases Keyed.mem_alter he with he | ⟨hkey, hvalue⟩
  · exact h e he
  · refine ⟨hkey ▸ hpath, fun added hadded => ?_⟩
    rcases hvalue with hnew | ⟨old, hold, hnew⟩
    · rw [hnew] at hadded
      exact hmore added hadded
    · rw [hnew] at hadded
      rcases List.mem_append.1 hadded with hadded | hadded
      · exact (h _ hold).2 added hadded
      · exact hmore added hadded

theorem Cursor.HasWholeTexts.step {c : Cursor} (h : c.HasWholeTexts) {line : List Char}
    (hline : IsWhole line) : (c.step line).HasWholeTexts := by
  unfold Cursor.step
  split
  · rename_i path hpath
    have hwhole : IsWhole (String.ofList path).toList := by
      rw [String.toList_ofList]
      exact fun d hd => hline d (mem_of_mem_targetPath? hpath hd)
    refine ⟨?_, hwhole⟩
    have hnone := isWhole_alter h.files hwhole
      fun added (hm : added ∈ ([] : List AddedLine)) => absurd hm List.not_mem_nil
    simpa using hnone
  · split
    · exact ⟨h.files, h.file⟩
    · split
      · rename_i n content _ _ _
        have hcontent : IsWhole (String.ofList content).toList := by
          rw [String.toList_ofList]
          exact fun d hd => hline d (List.mem_cons_of_mem _ hd)
        refine ⟨?_, h.file⟩
        simp only
        split
        · exact h.files
        · refine isWhole_alter h.files h.file fun added hadded => ?_
          rw [List.mem_singleton.1 hadded]
          exact hcontent
      · exact h

theorem Cursor.HasWholeTexts.foldl {c : Cursor} (h : c.HasWholeTexts) {lines : List (List Char)}
    (hlines : ∀ line ∈ lines, IsWhole line) : (lines.foldl Cursor.step c).HasWholeTexts := by
  induction lines generalizing c with
  | nil => exact h
  | cons line rest ih =>
    exact ih (h.step (hlines line List.mem_cons_self))
      fun l hl => hlines l (List.mem_cons_of_mem _ hl)

/-- The added lines of a diff that can be written can be written. -/
theorem isWhole_of_mem_ofLines {diff : String} (h : IsWhole diff.toList)
    {e : String × List AddedLine} (he : e ∈ ofLines (splitLines diff.toList)) :
    IsWhole e.1.toList ∧ ∀ added ∈ e.2, IsWhole added.content.toList := by
  have hlines : ∀ line ∈ splitLines diff.toList, IsWhole line := fun line hl c hc =>
    h c (mem_of_mem_splitLines hl c hc)
  exact (hasWholeTexts_start.foldl hlines).files e he

end PatchReview.AddedLines
