import Mathlib.Data.List.TakeDrop
import PatchReview.Text.Scan

/-! What the scanners of a text find, said of the text alone.

A scanner that gives a rest has found its text in front of it, and finds it in front of every
rest that cannot be taken for more of it. No blank is a digit (`isDigit_of_isBlank`), so blanks
and digits mark each other off. -/
namespace PatchReview.Text

theorem after?_append (literal rest : List Char) : after? literal (literal ++ rest) = some rest :=
  (after?_eq_some_iff literal _ rest).2 rfl

theorem after?_nil (s : List Char) : after? [] s = some s := rfl

theorem after?_cons_self (a : Char) (literal s : List Char) :
    after? (a :: literal) (a :: s) = after? literal s := by
  rw [after?, if_pos rfl]

/-- A literal text is not found behind another first character. -/
theorem after?_cons_of_ne {a c : Char} (h : a ≠ c) (literal s : List Char) :
    after? (a :: literal) (c :: s) = none := by
  rw [after?, if_neg h]

theorem startsWith_iff (literal s : List Char) :
    startsWith literal s = true ↔ ∃ rest, s = literal ++ rest := by
  simp only [startsWith, Option.isSome_iff_exists, after?_eq_some_iff]

/-- A text occurs in whatever starts with it. -/
theorem occursIn_append (word rest : List Char) : occursIn word (word ++ rest) = true := by
  have hstarts : startsWith word (word ++ rest) = true := (startsWith_iff word _).2 ⟨rest, rfl⟩
  rw [occursIn]
  cases hs : word ++ rest with
  | nil =>
    rw [hs] at hstarts
    rw [findSuffix?, if_pos hstarts, Option.isSome_some]
  | cons c s =>
    rw [hs] at hstarts
    simp only [findSuffix?, if_pos hstarts, Option.isSome_some]

/-! ### Runs of blanks and of digits -/

/-- One blank or more. -/
structure IsBlanks (w : List Char) : Prop where
  ne_nil : w ≠ []
  blank : allBlank w = true

/-- One digit or more. -/
structure IsNumber (digits : List Char) : Prop where
  ne_nil : digits ≠ []
  digit : digits.all isDigit = true

/-- The numbers of the blanks. -/
def blankNumbers : List Nat :=
  [9, 10, 11, 12, 13, 28, 29, 30, 31, 32, 0x85, 0xA0, 0x1680, 0x2000, 0x2001, 0x2002, 0x2003,
    0x2004, 0x2005, 0x2006, 0x2007, 0x2008, 0x2009, 0x200A, 0x2028, 0x2029, 0x202F, 0x205F, 0x3000]

theorem mem_blankNumbers {c : Char} (h : isBlank c = true) : c.toNat ∈ blankNumbers := by
  simp only [isBlank, Bool.or_eq_true, Bool.and_eq_true, decide_eq_true_eq, beq_iff_eq] at h
  simp only [blankNumbers, List.mem_cons, List.not_mem_nil, or_false]
  omega

/-- Blanks are no digits, of any script. -/
theorem isDigit_of_isBlank {c : Char} (h : isBlank c = true) : isDigit c = false := by
  have hn := mem_blankNumbers h
  have hnone : ∀ n ∈ blankNumbers, 128 ≤ n → (zeroDigits.find? fun z => z ≤ n && n < z + 10) = none := by
    decide
  have hlow : ∀ n ∈ blankNumbers, n < 128 → ¬(48 ≤ n ∧ n ≤ 57) := by decide
  rw [isDigit, digitValue?]
  by_cases hc : c.toNat < 128
  · have hd : c.isDigit = false := by
      have := hlow _ hn hc
      simp only [Char.isDigit, Bool.and_eq_false_iff, decide_eq_false_iff_not]
      rw [ge_iff_le, UInt32.le_iff_toNat_le, UInt32.le_iff_toNat_le]
      show ¬48 ≤ c.toNat ∨ ¬c.toNat ≤ 57
      omega
    simp [hc, hd]
  · simp [hc, hnone _ hn (by omega)]

theorem IsBlanks.exists_cons {w : List Char} (h : IsBlanks w) :
    ∃ c t, w = c :: t ∧ isBlank c = true ∧ allBlank t = true := by
  obtain ⟨hne, hb⟩ := h
  cases w with
  | nil => exact absurd rfl hne
  | cons c t =>
    simp only [allBlank, List.all_cons, Bool.and_eq_true] at hb
    exact ⟨c, t, rfl, hb.1, hb.2⟩

theorem trimStart_append {w : List Char} (h : allBlank w = true) (s : List Char) :
    trimStart (w ++ s) = trimStart s := by
  induction w with
  | nil => rfl
  | cons c w ih =>
    simp only [allBlank, List.all_cons, Bool.and_eq_true] at h
    rw [List.cons_append, trimStart, List.dropWhile_cons_of_pos h.1]
    exact ih h.2

theorem trimStart_cons {c : Char} (h : isBlank c = false) (s : List Char) :
    trimStart (c :: s) = c :: s := List.dropWhile_cons_of_neg (by simp [h])

/-- Blanks are passed up to a character that is none. -/
theorem afterBlanks?_append {w : List Char} (h : IsBlanks w) {c : Char} (hc : isBlank c = false)
    (s : List Char) : afterBlanks? (w ++ c :: s) = some (c :: s) := by
  obtain ⟨d, t, rfl, hd, ht⟩ := h.exists_cons
  rw [List.cons_append, afterBlanks?, if_pos hd, trimStart_append ht, trimStart_cons hc]

theorem exists_of_afterBlanks? {s rest : List Char} (h : afterBlanks? s = some rest) :
    ∃ w, IsBlanks w ∧ s = w ++ rest := by
  cases s with
  | nil => exact absurd h (by simp [afterBlanks?])
  | cons c s =>
    rw [afterBlanks?] at h
    split at h
    · rename_i hc
      obtain rfl := Option.some.inj h
      refine ⟨c :: s.takeWhile isBlank, ⟨List.cons_ne_nil _ _, ?_⟩, ?_⟩
      · simp only [allBlank, List.all_cons, hc, Bool.true_and]
        exact List.all_takeWhile
      · rw [List.cons_append]
        exact congrArg (c :: ·) List.takeWhile_append_dropWhile.symm
    · exact absurd h (by simp)

theorem takeNumber?_eq (s : List Char) :
    takeNumber? s =
      if s.takeWhile isDigit = [] then none
      else some (s.takeWhile isDigit, s.dropWhile isDigit) := by
  rw [takeNumber?, List.span_eq_takeWhile_dropWhile]
  cases s.takeWhile isDigit <;> rfl

/-- Whether a text goes on with a digit. -/
def StartsWithDigit (s : List Char) : Prop := ∃ c t, s = c :: t ∧ isDigit c = true

theorem takeNumber?_append {digits : List Char} (h : IsNumber digits) {rest : List Char}
    (hr : ¬StartsWithDigit rest) : takeNumber? (digits ++ rest) = some (digits, rest) := by
  have hall : ∀ c ∈ digits, isDigit c = true := List.all_eq_true.1 h.digit
  have hstop : rest.takeWhile isDigit = [] ∧ rest.dropWhile isDigit = rest := by
    cases rest with
    | nil => exact ⟨rfl, rfl⟩
    | cons c t =>
      have hc : ¬isDigit c = true := fun hc => hr ⟨c, t, rfl, hc⟩
      exact ⟨List.takeWhile_cons_of_neg hc, List.dropWhile_cons_of_neg hc⟩
  rw [takeNumber?_eq, List.takeWhile_append_of_pos hall, List.dropWhile_append_of_pos hall, hstop.1,
    hstop.2, List.append_nil, if_neg h.ne_nil]

theorem exists_of_takeNumber? {s digits rest : List Char} (h : takeNumber? s = some (digits, rest)) :
    IsNumber digits ∧ s = digits ++ rest ∧ ¬StartsWithDigit rest := by
  rw [takeNumber?_eq] at h
  split at h
  · exact absurd h (by simp)
  · rename_i hne
    simp only [Option.some.injEq, Prod.mk.injEq] at h
    obtain ⟨rfl, rfl⟩ := h
    refine ⟨⟨hne, List.all_takeWhile⟩, List.takeWhile_append_dropWhile.symm, ?_⟩
    rintro ⟨c, t, ht, hc⟩
    have := List.head_dropWhile_not isDigit (l := s) (by rw [ht]; exact List.cons_ne_nil _ _)
    simp only [ht, List.head_cons] at this
    rw [hc] at this
    exact absurd this (by decide)

end PatchReview.Text
