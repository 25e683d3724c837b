/-! Lines of a text.

A line ends at a newline, together with a carriage return right before it; a carriage
return anywhere else is a character like any other. `splitLines` undoes `joinLines` on
lines that hold no newline and do not end in a carriage return (`splitLines_joinLines`),
and on a text without carriage returns it cuts at newlines only
(`splitLines_eq_splitNewlines`). -/
namespace PatchReview.Text

/-- The lines of a text; the newline, and a carriage return right before it, are dropped. -/
def splitLines : List Char → List (List Char)
  | [] => [[]]
  | '\n' :: s => [] :: splitLines s
  | '\r' :: '\n' :: s => [] :: splitLines s
  | c :: s =>
    match splitLines s with
    | [] => [[c]]
    | line :: rest => (c :: line) :: rest

/-- The text cut at its newlines; a carriage return stays with its line. -/
def splitNewlines : List Char → List (List Char)
  | [] => [[]]
  | '\n' :: s => [] :: splitNewlines s
  | c :: s =>
    match splitNewlines s with
    | [] => [[c]]
    | line :: rest => (c :: line) :: rest

/-- The lines one after the other, with a newline between neighbours. -/
def joinLines : List (List Char) → List Char
  | [] => []
  | [line] => line
  | line :: rest => line ++ '\n' :: joinLines rest

/-- Every way to end a line becomes a newline. -/
def universalNewlines : List Char → List Char
  | [] => []
  | '\r' :: '\n' :: s => '\n' :: universalNewlines s
  | '\r' :: s => '\n' :: universalNewlines s
  | c :: s => c :: universalNewlines s

/-! ### Splitting and joining -/

theorem splitLines_ne_nil (s : List Char) : splitLines s ≠ [] := by
  fun_cases splitLines s <;> simp_all

theorem splitNewlines_ne_nil (s : List Char) : splitNewlines s ≠ [] := by
  fun_cases splitNewlines s <;> simp_all

theorem joinLines_cons (line : List Char) {rest : List (List Char)} (h : rest ≠ []) :
    joinLines (line :: rest) = line ++ '\n' :: joinLines rest := by
  cases rest with
  | nil => exact absurd rfl h
  | cons _ _ => rfl

/-- On a text without carriage returns a line ends exactly at a newline. -/
theorem splitLines_eq_splitNewlines (s : List Char) (h : '\r' ∉ s) :
    splitLines s = splitNewlines s := by
  fun_induction splitNewlines s with
  | case1 => rfl
  | case2 s ih =>
    simp only [splitLines]
    rw [ih (fun m => h (List.mem_cons_of_mem _ m))]
  | case3 c s _ hs => exact absurd hs (splitNewlines_ne_nil s)
  | case4 c s hc line rest hs ih =>
    have hr : c ≠ '\r' := fun e => h (e ▸ List.mem_cons_self)
    have := ih (fun m => h (List.mem_cons_of_mem _ m))
    rw [splitLines, this, hs]
    · exact hc
    · exact fun _ e => absurd e hr

end PatchReview.Text
