/-! Blank characters.

The blanks are the twenty-nine characters that separate words: the ASCII controls from
tab to carriage return, the four information separators, the space, and the spaces and
line separators beyond ASCII. Trimming removes them from the ends of a text and touches
nothing between (`trimEnd_of_last`). -/
namespace PatchReview.Text

/-- One of the twenty-nine blank characters. -/
def isBlank (c : Char) : Bool :=
  let n := c.toNat
  (9 ≤ n && n ≤ 13) || (28 ≤ n && n ≤ 32) || n == 0x85 || n == 0xA0 || n == 0x1680 ||
    (0x2000 ≤ n && n ≤ 0x200A) || n == 0x2028 || n == 0x2029 || n == 0x202F || n == 0x205F ||
    n == 0x3000

/-- Only blanks, or nothing at all. -/
def allBlank (s : List Char) : Bool := s.all isBlank

def trimStart (s : List Char) : List Char := s.dropWhile isBlank

/-- The text up to its last character that is not blank. -/
def trimEnd : List Char → List Char
  | [] => []
  | c :: s =>
    match trimEnd s with
    | [] => if isBlank c then [] else [c]
    | kept => c :: kept

def trim (s : List Char) : List Char := trimEnd (trimStart s)

/-! ### What trimming the end does -/

theorem trimEnd_cons (c : Char) (s : List Char) :
    trimEnd (c :: s) =
      if trimEnd s = [] then if isBlank c then [] else [c] else c :: trimEnd s := by
  show (match trimEnd s with | [] => if isBlank c then [] else [c] | kept => c :: kept) = _
  cases trimEnd s <;> rfl

theorem trimEnd_of_last (s : List Char) {c : Char} (hc : isBlank c = false) :
    trimEnd (s ++ [c]) = s ++ [c] := by
  induction s with
  | nil => exact if_neg (Bool.eq_false_iff.1 hc)
  | cons d s ih =>
    have hne : s ++ [c] ≠ [] := List.append_ne_nil_of_right_ne_nil s (List.cons_ne_nil c [])
    rw [List.cons_append, trimEnd_cons, ih, if_neg hne]

theorem trimEnd_eq_nil_iff (s : List Char) : trimEnd s = [] ↔ allBlank s = true := by
  induction s with
  | nil => exact iff_of_true rfl rfl
  | cons c s ih =>
    have hall : allBlank (c :: s) = (isBlank c && allBlank s) := rfl
    rw [trimEnd_cons, hall, Bool.and_eq_true, ← ih]
    by_cases hs : trimEnd s = []
    · cases hc : isBlank c <;> simp [hs]
    · simp [hs]

/-! ### The same on strings -/

/-- The text without the blanks at its ends. -/
def trimmed (s : String) : String := String.ofList (trim s.toList)

/-- The text without the blanks at its end. -/
def trimmedEnd (s : String) : String := String.ofList (trimEnd s.toList)

/-- Only blanks, or nothing at all. -/
def isBlankText (s : String) : Bool := allBlank s.toList

end PatchReview.Text
