import Mathlib.Data.List.Forall2
import PatchReview.Proofs.Diff.Reading
import PatchReview.Proofs.Diff.Sections

/-! Reading a diff at once, or block by block.

Whoever checks rules reads the diff as a whole, and whoever asks a reviewer reads its blocks. In one
pass a section starts where the one before it left off, and still it notes the same
(`Place.notes_eq`), as long as it adds nothing before it names its file. A block notes what its
section does, but for the blanks behind the last line (`Place.notes_block`). Together, both
readings see the same added lines of a `Separable` diff (`byBlocks_agrees`). -/
namespace PatchReview.AddedLines

open Diff Text

/-- A line that is recorded wherever a hunk has started. -/
def Adds (line : List Char) : Prop :=
  startsWith ['+'] line = true ∧ startsWith ['+', '+', '+'] line = false

instance : DecidablePred Adds := fun line =>
  inferInstanceAs (Decidable (startsWith ['+'] line = true ∧ _))

/-- The lines before the first target header. -/
def beforeTarget (lines : List (List Char)) : List (List Char) :=
  lines.takeWhile fun line => (targetPath? line).isNone

/-- A diff with one section for each name, in which nothing is added, or named without effect,
where no file is at hand. -/
structure Separable (diff : List Char) : Prop where
  carriageReturn_notMem : '\r' ∉ diff
  nodup_keys : ((sections diff).map Section.key).Nodup
  targetPath?_before : ∀ line ∈ (cutSections (splitLines diff)).1, targetPath? line = none
  head?_before : ∀ line ∈ (cutSections (splitLines diff)).1, line.head? ≠ some '+'
  not_adds : ∀ s ∈ sections diff, ∀ line ∈ beforeTarget s.lines, ¬Adds line
  targetPath?_last : ∀ s ∈ sections diff, ∀ line ∈ s.last?, targetPath? line = none

namespace Place

/-! ### What the place before a section has to do with it -/

theorem note?_of_not_adds {line : List Char} (ht : targetPath? line = none) (ha : ¬Adds line)
    (p : Place) : p.note? line = none := by
  cases line with
  | nil => exact note?_of_idle isIdle_nil p
  | cons c content =>
    by_cases hc : c = '+'
    · subst hc
      have hplus : startsWith ['+', '+'] content = true := by
        by_contra hn
        exact ha ⟨rfl, by simpa [startsWith, after?_cons_self] using hn⟩
      rw [note?_added ht, if_pos hplus]
    · cases hh : hunkStart? (c :: content) with
      | some digits => exact note?_of_hunk hh p
      | none => exact note?_of_idle ⟨ht, hh, by simpa using hc⟩ p

/-- Lines that add nothing before they name a file note the same from everywhere. -/
theorem notes_eq {lines : List (List Char)} (h : ∀ line ∈ beforeTarget lines, ¬Adds line)
    (p q : Place) : p.notes lines = q.notes lines := by
  induction lines generalizing p q with
  | nil => rfl
  | cons line rest ih =>
    cases ht : targetPath? line with
    | some path =>
      simp only [notes, note?_of_target ht, after_of_target ht]
    | none =>
      have hbefore : beforeTarget (line :: rest) = line :: beforeTarget rest := by
        simp [beforeTarget, ht]
      rw [hbefore] at h
      have ha := h line List.mem_cons_self
      rw [notes, notes, note?_of_not_adds ht ha, note?_of_not_adds ht ha]
      exact ih (fun l hl => h l (List.mem_cons_of_mem _ hl)) _ _

theorem notes_flatMap {sections : List Section}
    (h : ∀ s ∈ sections, ∀ line ∈ beforeTarget s.lines, ¬Adds line) (p : Place) :
    p.notes (sections.flatMap Section.lines) = sections.flatMap fun s => start.notes s.lines := by
  induction sections generalizing p with
  | nil => rfl
  | cons s sections ih =>
    rw [List.flatMap_cons, List.flatMap_cons, notes_append, notes_eq (h s List.mem_cons_self) p start,
      ih fun t ht => h t (List.mem_cons_of_mem _ ht)]

theorem notes_of_not_plus {lines : List (List Char)}
    (h : ∀ line ∈ lines, targetPath? line = none ∧ line.head? ≠ some '+') (p : Place) :
    p.notes lines = [] := by
  induction lines generalizing p with
  | nil => rfl
  | cons line rest ih =>
    have ⟨ht, hp⟩ := h line List.mem_cons_self
    have ha : ¬Adds line := by
      rintro ⟨hplus, -⟩
      obtain ⟨t, rfl⟩ := (startsWith_iff _ _).1 hplus
      exact hp rfl
    rw [notes, note?_of_not_adds ht ha, ih fun l hl => h l (List.mem_cons_of_mem _ hl)]
    rfl

end Place

/-- The notes of a separable diff are those of its sections. -/
theorem Separable.notes_eq {diff : List Char} (h : Separable diff) :
    Place.start.notes (splitLines diff) =
      (sections diff).flatMap fun s => Place.start.notes s.lines := by
  have hlines := flatten_cutSections (splitLines diff)
  have hbefore : Place.start.notes (cutSections (splitLines diff)).1 = [] :=
    Place.notes_of_not_plus (fun line hl => ⟨h.targetPath?_before line hl, h.head?_before line hl⟩) _
  rw [← hlines, Place.notes_append, hbefore, List.nil_append, Place.notes_flatMap]
  · rfl
  · exact h.not_adds

/-! ### Lines that agree -/

/-- The same line, or the same but for the blanks behind it, where it is the last of a section. -/
def SameLine (diff : List Char) (a b : AddedLine) : Prop :=
  a.number = b.number ∧ (a.content = b.content ∨
    trimmedEnd a.content = b.content ∧
      ∃ s ∈ sections diff, s.last? = some ('+' :: a.content.toList))

/-- The same file with lines that agree. -/
def SameNote (diff : List Char) (a b : Note) : Prop :=
  a.1 = b.1 ∧ List.Forall₂ (SameLine diff) a.2 b.2

/-- The same files in the same order, with lines that agree. -/
def Same (diff : List Char) : AddedLines → AddedLines → Prop := List.Forall₂ (SameNote diff)

section
variable {diff : List Char}

theorem SameNote.refl (a : Note) : SameNote diff a a :=
  ⟨rfl, List.forall₂_same.2 fun _ _ => ⟨rfl, .inl rfl⟩⟩

theorem Same.extend {a b : AddedLines} (h : Same diff a b) {m n : Note} (hn : SameNote diff m n) :
    Same diff (extend a m) (extend b n) := by
  obtain ⟨path, lines⟩ := m
  obtain ⟨path', lines'⟩ := n
  obtain ⟨rfl, hlines⟩ : path = path' ∧ _ := hn
  induction h with
  | nil => exact .cons ⟨rfl, hlines⟩ .nil
  | @cons e e' rest rest' he hrest ih =>
    obtain ⟨k, old⟩ := e
    obtain ⟨k', old'⟩ := e'
    obtain ⟨rfl, hold⟩ : k = k' ∧ _ := he
    by_cases hk : k = path
    · simp only [AddedLines.extend, Keyed.alter, if_pos hk]
      exact .cons ⟨rfl, List.rel_append hold hlines⟩ hrest
    · simp only [AddedLines.extend, Keyed.alter, if_neg hk]
      exact .cons ⟨rfl, hold⟩ ih

/-- Notes that agree come to files that agree. -/
theorem Same.gather {a b : List Note} (h : List.Forall₂ (SameNote diff) a b) :
    Same diff (gather a) (gather b) :=
  List.rel_foldl (fun _ _ hfiles _ _ hnote => hfiles.extend hnote) .nil h

end

/-! ### A section and its block -/

namespace Place

theorem isIdle_trimEnd {line : List Char} (h : IsIdle line) : IsIdle (trimEnd line) := by
  obtain ⟨ht, hh, hp⟩ := h
  refine ⟨targetPath?_trimEnd_eq_none ht, (hunkStart?_trimEnd line).trans hh, fun hplus => hp ?_⟩
  obtain ⟨w, hline, -⟩ := exists_append_blank line
  rw [hline, List.head?_append, hplus]
  rfl

theorem startsWith_trimEnd (s : List Char) :
    startsWith ['+', '+'] (trimEnd s) = startsWith ['+', '+'] s := by
  have h := exists_trimEnd_eq_append_cons s '+' ['+'] (by decide)
  rw [Bool.eq_iff_iff, startsWith_iff, startsWith_iff]
  exact h

/-- A last line notes the same before and after trimming, but for the blanks. -/
theorem note?_trimEnd {diff line : List Char} (ht : targetPath? line = none)
    (hlast : ∃ s ∈ sections diff, s.last? = some line) (p : Place) :
    List.Forall₂ (SameNote diff) (p.note? line).toList (p.note? (trimEnd line)).toList := by
  have ht' := targetPath?_trimEnd_eq_none ht
  have hplus : isBlank '+' = false := by decide
  cases hh : hunkStart? line with
  | some digits =>
    rw [note?_of_hunk hh, note?_of_hunk ((hunkStart?_trimEnd line).trans hh)]
    exact .nil
  | none =>
    by_cases hp : line.head? = some '+'
    · obtain ⟨content, rfl⟩ : ∃ content, line = '+' :: content := List.head?_eq_some_iff.1 hp
      rw [trimEnd_cons_of_not_blank content hplus] at ht' ⊢
      rw [note?_added ht, note?_added ht', startsWith_trimEnd]
      split
      · exact .nil
      · cases p.next with
        | none => exact .nil
        | some n =>
          refine .cons ⟨rfl, .cons ⟨rfl, .inr ⟨?_, ?_⟩⟩ .nil⟩ .nil
          · rw [trimmedEnd, String.toList_ofList]
          · rwa [String.toList_ofList]
    · have hidle : IsIdle line := ⟨ht, hh, hp⟩
      rw [note?_of_idle hidle, note?_of_idle (isIdle_trimEnd hidle)]
      exact .nil

/-- A block notes what its section does. -/
theorem notes_block {diff : List Char} (h : Separable diff) {s : Section} (hs : s ∈ sections diff)
    (p : Place) :
    List.Forall₂ (SameNote diff) (p.notes s.lines) (p.notes (splitLines s.block.toList)) := by
  obtain ⟨kept, last, blanks, hlines, hlast, hblanks, hs'⟩ := exists_lines_eq_append_last hs
  have ht := h.targetPath?_last s hs last hs'
  rw [splitLines_block h.carriageReturn_notMem hs hlines hlast hblanks, hlines, notes_append,
    notes_append, notes, notes, notes_cons_of_idle isIdle_nil, notes,
    notes_of_idle fun line hl => isIdle_of_allBlank (hblanks line hl), List.append_nil,
    List.append_nil]
  exact List.rel_append (List.forall₂_same.2 fun _ _ => .refl _) (note?_trimEnd ht ⟨s, hs, hs'⟩ _)

end Place

/-- A block has the hunk headers of its section. -/
theorem oversizedStart?_block {diff : List Char} (hr : '\r' ∉ diff) {s : Section}
    (hs : s ∈ sections diff) :
    oversizedStart? (splitLines s.block.toList) = oversizedStart? s.lines := by
  obtain ⟨kept, last, blanks, hlines, hlast, hblanks, -⟩ := exists_lines_eq_append_last hs
  have hnone : blanks.filterMap hunkStart? = [] := by
    rw [List.filterMap_eq_nil_iff]
    exact fun line hl => (Place.isIdle_of_allBlank (hblanks line hl)).2.1
  have hhunks : (kept ++ [trimEnd last, []]).filterMap hunkStart? =
      (kept ++ last :: blanks).filterMap hunkStart? := by
    simp only [List.filterMap_append, List.filterMap_cons, hunkStart?_trimEnd, hnone,
      Place.isIdle_nil.2.1, List.filterMap_nil]
  rw [splitLines_block hr hs hlines hlast hblanks, hlines, oversizedStart?, hhunks]
  rfl

theorem oversizedStart?_append (a b : List (List Char)) :
    oversizedStart? (a ++ b) = (oversizedStart? a).or (oversizedStart? b) := by
  rw [oversizedStart?, List.filterMap_append, List.findSome?_append]
  rfl

theorem ofDiff_block {diff : List Char} (hr : '\r' ∉ diff) {s : Section}
    (hs : s ∈ sections diff) :
    ofDiff s.block = match oversizedStart? s.lines with
      | some digits => .error (.tooLong digits)
      | none => .ok (ofLines (splitLines s.block.toList)) := by
  rw [← oversizedStart?_block hr hs]
  rfl

/-! ### Both readings -/

/-- The added lines of a diff, read block by block. -/
def byBlocks (diff : String) : Except NumeralError AddedLines := do
  let parts ← (blocks diff).mapM fun e => ofDiff e.2
  return gather parts.flatten

/-- The blocks are read one after the other, up to the first start with too many digits. -/
theorem mapM_ofDiff {diff : List Char} (hr : '\r' ∉ diff) {part : List Section}
    (h : ∀ s ∈ part, s ∈ sections diff) :
    (part.map fun s => (s.key, s.block)).mapM (fun e => ofDiff e.2) =
      match oversizedStart? (part.flatMap Section.lines) with
      | some digits => .error (.tooLong digits)
      | none => .ok (part.map fun s => ofLines (splitLines s.block.toList)) := by
  induction part with
  | nil => rfl
  | cons s rest ih =>
    rw [List.map_cons, List.mapM_cons, ih fun t ht => h t (List.mem_cons_of_mem _ ht),
      List.flatMap_cons, oversizedStart?_append, ofDiff_block hr (h s List.mem_cons_self)]
    cases oversizedStart? s.lines with
    | some digits => rfl
    | none => cases oversizedStart? (rest.flatMap Section.lines) <;> rfl

theorem byBlocks_eq {diff : String} (h : Separable diff.toList) :
    byBlocks diff = match oversizedStart? ((sections diff.toList).flatMap Section.lines) with
      | some digits => .error (.tooLong digits)
      | none => .ok (gather ((blocks diff).flatMap fun e => ofLines (splitLines e.2.toList))) := by
  rw [byBlocks, blocks_of_nodup h.nodup_keys, mapM_ofDiff h.carriageReturn_notMem fun _ hs => hs]
  cases oversizedStart? ((sections diff.toList).flatMap Section.lines) with
  | some digits => rfl
  | none =>
    rw [List.flatMap_map]
    rfl

theorem notes_blocks {diff : List Char} (h : Separable diff) {part : List Section}
    (hpart : ∀ s ∈ part, s ∈ sections diff) :
    List.Forall₂ (SameNote diff) (part.flatMap fun s => Place.start.notes s.lines)
      (part.flatMap fun s => Place.start.notes (splitLines s.block.toList)) := by
  induction part with
  | nil => exact .nil
  | cons s rest ih =>
    exact List.rel_append (Place.notes_block h (hpart s List.mem_cons_self) _)
      (ih fun t ht => hpart t (List.mem_cons_of_mem _ ht))

/-- A diff and its blocks come to the same, their starts taken at their values. -/
theorem same_gather {diff : String} (h : Separable diff.toList) :
    Same diff.toList (ofLines (splitLines diff.toList))
      (gather ((blocks diff).flatMap fun e => ofLines (splitLines e.2.toList))) := by
  have hparts := gather_flatMap_gather ((sections diff.toList).map fun s =>
    Place.start.notes (splitLines s.block.toList))
  rw [List.flatMap_map, ← List.flatMap_def] at hparts
  rw [blocks_of_nodup h.nodup_keys, List.flatMap_map]
  simp only [ofLines_eq_gather]
  rw [hparts, h.notes_eq]
  exact Same.gather (notes_blocks h fun _ hs => hs)

/-- A separable diff has the same added lines for whoever reads it at once and whoever reads its
blocks. Reading fails for both, and for the same reason, if it fails at all behind the first file
header. -/
theorem byBlocks_agrees {diff : String} (h : Separable diff.toList) :
    Same diff.toList (ofLines (splitLines diff.toList))
        (gather ((blocks diff).flatMap fun e => ofLines (splitLines e.2.toList))) ∧
      ((∀ line ∈ (cutSections (splitLines diff.toList)).1, ∀ digits,
          hunkStart? line = some digits → digits.length ≤ digitLimit) →
        match ofDiff diff with
        | .ok whole => ∃ joined, byBlocks diff = .ok joined ∧ Same diff.toList whole joined
        | .error e => byBlocks diff = .error e) := by
  refine ⟨same_gather h, fun hstarts => ?_⟩
  have hbefore := (oversizedStart?_eq_none_iff _).2 hstarts
  have hlines : oversizedStart? (splitLines diff.toList) =
      oversizedStart? ((sections diff.toList).flatMap Section.lines) := by
    conv_lhs => rw [← flatten_cutSections (splitLines diff.toList)]
    rw [oversizedStart?_append, hbefore]
    rfl
  rw [byBlocks_eq h, ofDiff, hlines]
  cases oversizedStart? ((sections diff.toList).flatMap Section.lines) with
  | some digits => rfl
  | none => exact ⟨_, rfl, same_gather h⟩

/-- The lines of a diff of three files. The first file ends in a blank, the second has no target of
its own and comes while the counter of the first still runs, and the third has two hunks. -/
def threeSections : List (List Char) :=
  ["x", "diff --git a/f b/f", "--- a/f", "+++ b/f", "@@ -1 +7,2 @@", " c", "+a ",
    "diff --git a/p b/p", "Binary files differ", " d",
    "diff --git a/g b/g", "+++ b/g", "@@ -0,0 +1 @@", "+b", "@@ -3 +5 @@", "-d", "+e"].map
    String.toList

theorem byBlocks_agrees_three_sections :
    let diff := String.ofList (closedLines threeSections)
    Separable diff.toList ∧ (blocks diff).length = 3 ∧
      ∃ joined, byBlocks diff = .ok joined ∧
        Same diff.toList [("f", [⟨7, "a "⟩]), ("g", [⟨1, "b"⟩, ⟨5, "e"⟩])] joined := by
  intro diff
  have hdiff : diff.toList = closedLines threeSections := String.toList_ofList
  clear_value diff
  have hsep : Separable diff.toList := by
    rw [hdiff]
    refine ⟨?_, ?_, ?_, ?_, ?_, ?_⟩ <;> decide +kernel
  have hblocks : (blocks diff).length = 3 := by
    rw [blocks_of_nodup hsep.nodup_keys, List.length_map, hdiff]
    decide +kernel
  have hread : ofDiff diff = .ok [("f", [⟨7, "a "⟩]), ("g", [⟨1, "b"⟩, ⟨5, "e"⟩])] := by
    rw [ofDiff_of_oversizedStart?_eq_none, hdiff]
    · decide +kernel
    · rw [hdiff]
      decide +kernel
  have hbefore : oversizedStart? (cutSections (splitLines diff.toList)).1 = none := by
    rw [hdiff]
    decide +kernel
  have hagrees := (byBlocks_agrees hsep).2 ((oversizedStart?_eq_none_iff _).1 hbefore)
  rw [hread] at hagrees
  exact ⟨hsep, hblocks, hagrees⟩

/-! ### Hunk headers before the first file -/

section
variable {start : List Char}

/-- A hunk header. -/
def strayHeader (start : List Char) : List Char :=
  "@@ -1 +".toList ++ (start ++ " @@".toList)

/-- A hunk header, and a file behind it. -/
def stray (start : List Char) : String := String.ofList (closedLines [strayHeader start,
  "diff --git a/x b/x".toList, "+++ b/x".toList, "@@ -1 +1 @@".toList, "+a".toList])

theorem hunkStart?_strayHeader (h : IsNumber start) :
    hunkStart? (strayHeader start) = some start := by
  have hblank : IsBlanks [' '] := ⟨List.cons_ne_nil _ _, by decide⟩
  have hsource : IsNumber ['1'] := ⟨List.cons_ne_nil _ _, by decide⟩
  have hheader : IsHunkHeader ('@' :: '@' :: ([' '] ++ '-' :: (['1'] ++ ([] ++ ([' '] ++
      '+' :: (start ++ ([] ++ ([' '] ++ ['@', '@'])))))))) start :=
    .mk hblank hsource .left hblank h .left hblank
  rw [hunkStart?_eq_some_iff]
  exact hheader

theorem notMem_strayHeader (h : IsNumber start) {c : Char} (hd : isDigit c = false)
    (hfront : c ∉ "@@ -1 +".toList) (hback : c ∉ " @@".toList) : c ∉ strayHeader start := by
  intro hc
  rcases List.mem_append.1 hc with hc | hc
  · exact hfront hc
  rcases List.mem_append.1 hc with hc | hc
  · rw [List.all_eq_true.1 h.digit c hc] at hd
    exact absurd hd (by decide)
  · exact hback hc

theorem splitLines_stray (h : IsNumber start) : splitLines (stray start).toList =
    strayHeader start :: ["diff --git a/x b/x".toList, "+++ b/x".toList, "@@ -1 +1 @@".toList,
      "+a".toList, []] := by
  have hheader : IsLine (strayHeader start) := by
    refine ⟨notMem_strayHeader h (by decide) (by decide) (by decide), fun hlast => ?_⟩
    exact notMem_strayHeader h (by decide) (by decide) (by decide) (List.mem_of_getLast? hlast)
  rw [stray, String.toList_ofList]
  refine splitLines_closed fun line hl => ?_
  simp only [List.mem_cons, List.not_mem_nil, or_false] at hl
  rcases hl with rfl | rfl | rfl | rfl | rfl
  · exact hheader
  all_goals exact ⟨by decide, by decide⟩

theorem cutSections_stray (h : IsNumber start) : cutSections (splitLines (stray start).toList) =
    ([strayHeader start], [⟨['x'], ["diff --git a/x b/x".toList, "+++ b/x".toList,
      "@@ -1 +1 @@".toList, "+a".toList, []]⟩]) := by
  have hnone : fileTarget? (strayHeader start) = none :=
    fileTarget?_cons_of_ne (c := '@') (by decide) _
  rw [splitLines_stray h, cutSections_cons_of_none hnone]
  rfl

theorem sections_stray (h : IsNumber start) : sections (stray start).toList =
    [⟨['x'], ["diff --git a/x b/x".toList, "+++ b/x".toList, "@@ -1 +1 @@".toList, "+a".toList,
      []]⟩] :=
  congrArg Prod.snd (cutSections_stray h)

theorem separable_stray (h : IsNumber start) : Separable (stray start).toList := by
  have hcut := cutSections_stray h
  have hsections := sections_stray h
  refine ⟨?_, ?_, ?_, ?_, ?_, ?_⟩
  · rw [stray, String.toList_ofList, closedLines, List.flatMap_cons, List.mem_append,
      List.mem_append, not_or, not_or]
    exact ⟨⟨notMem_strayHeader h (by decide) (by decide) (by decide), by decide⟩, by decide⟩
  · rw [hsections]
    decide
  · rw [hcut]
    intro line hl
    obtain rfl := List.mem_singleton.1 hl
    exact Place.targetPath?_of_hunk (hunkStart?_strayHeader h)
  · rw [hcut]
    intro line hl
    obtain rfl := List.mem_singleton.1 hl
    show some '@' ≠ some '+'
    decide
  · rw [hsections]
    decide
  · rw [hsections]
    decide

/-- With too many digits the header stops who reads the diff at once, though no file is at hand. It
is in no block. -/
theorem byBlocks_stray_of_lt (h : IsNumber start) (hlong : digitLimit < start.length) :
    ofDiff (stray start) = .error (.tooLong start.length) ∧
      byBlocks (stray start) = .ok [("x", [⟨1, "a"⟩])] := by
  have hsep := separable_stray h
  constructor
  · have hlarge : oversizedStart? (splitLines (stray start).toList) = some start.length := by
      rw [splitLines_stray h, oversizedStart?, List.filterMap_cons, hunkStart?_strayHeader h]
      simp only [List.findSome?_cons, if_pos hlong]
    rw [ofDiff, hlarge]
  · rw [byBlocks_eq hsep, blocks_of_nodup hsep.nodup_keys, sections_stray h]
    decide

end

theorem byBlocks_stray : Separable (stray (List.replicate 4301 '1')).toList ∧
    ofDiff (stray (List.replicate 4301 '1')) = .error (.tooLong 4301) ∧
      byBlocks (stray (List.replicate 4301 '1')) = .ok [("x", [⟨1, "a"⟩])] := by
  have hlength : (List.replicate 4301 '1').length = 4301 := List.length_replicate
  have hnumber : IsNumber (List.replicate 4301 '1') := by
    refine ⟨List.ne_nil_of_length_pos (by rw [hlength]; decide), List.all_eq_true.2 fun c hc => ?_⟩
    rw [List.eq_of_mem_replicate hc]
    decide
  have hstray := byBlocks_stray_of_lt hnumber (by rw [hlength]; decide)
  rw [hlength] at hstray
  exact ⟨separable_stray hnumber, hstray⟩

end PatchReview.AddedLines
