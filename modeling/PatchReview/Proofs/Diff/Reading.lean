import PatchReview.Proofs.Diff.Gather
import PatchReview.Proofs.Diff.Header

/-! Reading the lines of a diff, place by place.

What a line notes depends on the place where reading stands, the file at hand and the next number,
and not on what was noted before. So the notes of a diff are a list (`notes`), the lines of two
texts note what the one and the other note from where it ends (`notes_append`), and the added
lines of a diff are its notes put together (`ofLines_eq_gather`). -/
namespace PatchReview.AddedLines

open Diff Text

/-- Where reading stands: the file at hand, and the number of the next added line. -/
structure Place where
  file : Option String
  next : Option Int
  deriving DecidableEq, Repr

namespace Place

/-- Before the first line. -/
def start : Place := ⟨none, none⟩

/-- Behind a line. -/
def after (p : Place) (line : List Char) : Place :=
  match targetPath? line with
  | some path => ⟨some (String.ofList path), none⟩
  | none =>
    match hunkStart? line with
    | some digits => { p with next := some (digitsValue digits : Nat) }
    | none =>
      match p.next, line with
      | some n, '+' :: _ => { p with next := some (n + 1) }
      | _, _ => p

/-- What a line notes. -/
def note? (p : Place) (line : List Char) : Option Note :=
  match targetPath? line with
  | some path => some (String.ofList path, [])
  | none =>
    match hunkStart? line with
    | some _ => none
    | none =>
      match p.next, line with
      | some n, '+' :: content =>
        if startsWith ['+', '+'] content then none
        else some (p.file.getD "", [⟨n, String.ofList content⟩])
      | _, _ => none

/-- Behind some lines. -/
def run (p : Place) (lines : List (List Char)) : Place := lines.foldl after p

/-- What some lines note, one after the other. -/
def notes (p : Place) : List (List Char) → List Note
  | [] => []
  | line :: rest => (p.note? line).toList ++ notes (p.after line) rest

theorem notes_append (p : Place) (a b : List (List Char)) :
    p.notes (a ++ b) = p.notes a ++ (p.run a).notes b := by
  induction a generalizing p with
  | nil => rfl
  | cons line a ih =>
    simp only [List.cons_append, notes, ih, List.append_assoc]
    rfl

/-! ### One line -/

theorem after_of_target {line path : List Char} (h : targetPath? line = some path) (p : Place) :
    p.after line = ⟨some (String.ofList path), none⟩ := by
  simp only [after, h]

theorem note?_of_target {line path : List Char} (h : targetPath? line = some path) (p : Place) :
    p.note? line = some (String.ofList path, []) := by
  simp only [note?, h]

/-- A target header is noted wherever it stands. -/
theorem mem_notes_of_target {lines : List (List Char)} {line path : List Char} (hl : line ∈ lines)
    (h : targetPath? line = some path) (p : Place) :
    (String.ofList path, []) ∈ p.notes lines := by
  induction lines generalizing p with
  | nil => exact absurd hl List.not_mem_nil
  | cons first rest ih =>
    rw [notes, List.mem_append]
    rcases List.mem_cons.1 hl with rfl | hl
    · rw [note?_of_target h]
      exact .inl List.mem_cons_self
    · exact .inr (ih hl _)

/-- A hunk header is no target header. -/
theorem targetPath?_of_hunk {line digits : List Char} (h : hunkStart? line = some digits) :
    targetPath? line = none := by
  obtain ⟨_, _, _, _, _, _, _⟩ := (hunkStart?_eq_some_iff line digits).1 h
  exact targetPath?_cons_of_ne (by decide) _

theorem after_of_hunk {line digits : List Char} (h : hunkStart? line = some digits) (p : Place) :
    p.after line = { p with next := some (digitsValue digits : Nat) } := by
  simp only [after, targetPath?_of_hunk h, h]

theorem note?_of_hunk {line digits : List Char} (h : hunkStart? line = some digits) (p : Place) :
    p.note? line = none := by
  simp only [note?, targetPath?_of_hunk h, h]

theorem after_added {content : List Char} (h : targetPath? ('+' :: content) = none) (p : Place) :
    p.after ('+' :: content) = { p with next := p.next.map (· + 1) } := by
  have hh : hunkStart? ('+' :: content) = none := hunkStart?_cons_of_ne (by decide) _
  obtain ⟨file, next⟩ := p
  cases next <;> simp only [after, h, hh, Option.map]

theorem note?_added {content : List Char} (h : targetPath? ('+' :: content) = none) (p : Place) :
    p.note? ('+' :: content) =
      if startsWith ['+', '+'] content then none
      else p.next.map fun n => (p.file.getD "", [⟨n, String.ofList content⟩]) := by
  have hh : hunkStart? ('+' :: content) = none := hunkStart?_cons_of_ne (by decide) _
  obtain ⟨file, next⟩ := p
  cases next with
  | none => simp only [note?, h, hh, Option.map_none, ite_self]
  | some n => simp only [note?, h, hh, Option.map_some]

/-- Lines that are no headers and do not add anything. -/
def IsIdle (line : List Char) : Prop :=
  targetPath? line = none ∧ hunkStart? line = none ∧ line.head? ≠ some '+'

theorem after_of_idle {line : List Char} (h : IsIdle line) (p : Place) : p.after line = p := by
  obtain ⟨ht, hh, hp⟩ := h
  simp only [after, ht, hh]
  split
  · simp at hp
  · rfl

theorem note?_of_idle {line : List Char} (h : IsIdle line) (p : Place) : p.note? line = none := by
  obtain ⟨ht, hh, hp⟩ := h
  simp only [note?, ht, hh]
  split
  · simp at hp
  · rfl

theorem isIdle_nil : IsIdle [] := by
  refine ⟨rfl, rfl, ?_⟩
  simp

theorem isIdle_cons {c : Char} (hp : c ≠ '+') (ha : c ≠ '@') (s : List Char) : IsIdle (c :: s) :=
  ⟨targetPath?_cons_of_ne hp s, hunkStart?_cons_of_ne ha s, by simpa using hp⟩

theorem isIdle_of_allBlank {line : List Char} (h : allBlank line = true) : IsIdle line := by
  cases line with
  | nil => exact isIdle_nil
  | cons c s =>
    simp only [allBlank, List.all_cons, Bool.and_eq_true] at h
    refine isIdle_cons ?_ ?_ s
    · rintro rfl
      exact absurd h.1 (by decide)
    · rintro rfl
      exact absurd h.1 (by decide)

theorem notes_cons_of_idle {line : List Char} (h : IsIdle line) (p : Place)
    (rest : List (List Char)) : p.notes (line :: rest) = p.notes rest := by
  rw [notes, note?_of_idle h, after_of_idle h]
  rfl

theorem run_cons_of_idle {line : List Char} (h : IsIdle line) (p : Place)
    (rest : List (List Char)) : p.run (line :: rest) = p.run rest := by
  show (p.after line).run rest = p.run rest
  rw [after_of_idle h]

theorem notes_append_of_idle {lines : List (List Char)} (h : ∀ line ∈ lines, IsIdle line)
    (p : Place) (rest : List (List Char)) : p.notes (lines ++ rest) = p.notes rest := by
  induction lines with
  | nil => rfl
  | cons line lines ih =>
    rw [List.cons_append, notes_cons_of_idle (h line List.mem_cons_self)]
    exact ih fun l hl => h l (List.mem_cons_of_mem _ hl)

theorem notes_of_idle {lines : List (List Char)} (h : ∀ line ∈ lines, IsIdle line) (p : Place) :
    p.notes lines = [] := by
  have happend := notes_append_of_idle h p []
  rwa [List.append_nil] at happend

/-- The empty line behind the last newline notes nothing. -/
theorem notes_append_nil (p : Place) (lines : List (List Char)) :
    p.notes (lines ++ [[]]) = p.notes lines := by
  rw [notes_append, notes_cons_of_idle isIdle_nil, notes, List.append_nil]

end Place

/-! ### Cursors -/

/-- The place of a cursor. -/
def Cursor.place (c : Cursor) : Place := ⟨c.file, c.next⟩

/-- A step goes to the next place and adds what the line notes. -/
theorem Cursor.step_eq (c : Cursor) (line : List Char) :
    c.step line = ⟨(c.place.note? line).toList.foldl extend c.files, (c.place.after line).file,
      (c.place.after line).next⟩ := by
  obtain ⟨files, file, next⟩ := c
  unfold step Place.note? Place.after
  simp only [place]
  cases targetPath? line with
  | some path => simp [extend]
  | none =>
    cases hunkStart? line with
    | some digits => simp
    | none =>
      simp only
      split
      · simp only
        split <;> simp [extend]
      · simp

theorem foldl_step (c : Cursor) (lines : List (List Char)) :
    lines.foldl Cursor.step c = ⟨(c.place.notes lines).foldl extend c.files,
      (c.place.run lines).file, (c.place.run lines).next⟩ := by
  induction lines generalizing c with
  | nil => rfl
  | cons line rest ih =>
    rw [List.foldl_cons, Cursor.step_eq, ih, Place.notes, List.foldl_append]
    rfl

/-- The added lines of a diff are what its lines note, put together by file. -/
theorem ofLines_eq_gather (lines : List (List Char)) :
    ofLines lines = gather (Place.start.notes lines) := by
  rw [ofLines, foldl_step]
  rfl

/-! ### Starts that are too long -/

theorem oversizedStart?_eq_none_iff (lines : List (List Char)) :
    oversizedStart? lines = none ↔
      ∀ line ∈ lines, ∀ digits, hunkStart? line = some digits → digits.length ≤ digitLimit := by
  simp only [oversizedStart?, List.findSome?_eq_none_iff, List.mem_filterMap, ite_eq_right_iff,
    reduceCtorEq, imp_false, Nat.not_lt]
  constructor
  · exact fun h line hl digits hd => h digits ⟨line, hl, hd⟩
  · rintro h digits ⟨line, hl, hd⟩
    exact h line hl digits hd

/-- A diff is read at its value unless a start is too long. -/
theorem ofDiff_of_oversizedStart?_eq_none {diff : String}
    (h : oversizedStart? (splitLines diff.toList) = none) :
    ofDiff diff = .ok (ofLines (splitLines diff.toList)) := by
  rw [ofDiff, h]

end PatchReview.AddedLines
