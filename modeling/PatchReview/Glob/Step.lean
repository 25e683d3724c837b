import PatchReview.Glob.Path

/-! Patterns as steps.

A step takes one character that passes a test, or as many as there is need of. `takes` says what
it means that steps take a whole text; `answers` finds that out for a text and all its ends at
once, step by step from the last one, so that no end is looked at twice (`answers_eq`,
`accepts_eq`). -/
namespace PatchReview.Glob

/-- A step of a pattern. -/
inductive Step where
  | one (test : Char → Bool)
  | many (test : Char → Bool)

namespace Step

variable (isEnd : List Char → Bool)

/-- Whether steps take a whole text, one after the other; `isEnd` is whether nothing is left. -/
def takes : List Step → List Char → Bool
  | [], s => isEnd s
  | .one test :: rest, c :: s => test c && takes rest s
  | .one _ :: _, [] => false
  | .many test :: rest, s => someEnd test (takes rest) s

/-- A text and its ends, the longest first. -/
def ends : List Char → List (List Char)
  | [] => [[]]
  | c :: s => (c :: s) :: ends s

/-- The answers for a text and its ends if a single character comes first; `behind` are those for
what comes behind it. -/
def answersOne (test : Char → Bool) : List Char → List Bool → List Bool
  | c :: s, _ :: behind => (test c && behind.headD false) :: answersOne test s behind
  | _, _ => [false]

/-- The answers for a text and its ends if any number of characters come first. -/
def answersMany (test : Char → Bool) : List Char → List Bool → List Bool
  | c :: s, here :: behind =>
    let later := answersMany test s behind
    (here || (test c && later.headD false)) :: later
  | _, behind => behind

/-- Whether steps take a text, and each of its ends. -/
def answers : List Step → List Char → List Bool
  | [], s => (ends s).map isEnd
  | .one test :: rest, s => answersOne test s (answers rest s)
  | .many test :: rest, s => answersMany test s (answers rest s)

/-- Whether steps take a whole text. -/
def accepts (steps : List Step) (s : List Char) : Bool := (answers isEnd steps s).headD false

theorem headD_map_ends (p : List Char → Bool) (s : List Char) :
    ((ends s).map p).headD false = p s := by
  cases s <;> rfl

theorem answersOne_ends (test : Char → Bool) (rest : List Step) (s : List Char) :
    answersOne test s ((ends s).map (takes isEnd rest)) =
      (ends s).map (takes isEnd (.one test :: rest)) := by
  induction s with
  | nil => rfl
  | cons c s ih => simp only [ends, List.map_cons, answersOne, ih, headD_map_ends, takes]

theorem answersMany_ends (test : Char → Bool) (rest : List Step) (s : List Char) :
    answersMany test s ((ends s).map (takes isEnd rest)) =
      (ends s).map (takes isEnd (.many test :: rest)) := by
  induction s with
  | nil => rfl
  | cons c s ih => simp only [ends, List.map_cons, answersMany, ih, headD_map_ends, takes, someEnd]

theorem answers_eq (steps : List Step) (s : List Char) :
    answers isEnd steps s = (ends s).map (takes isEnd steps) := by
  induction steps with
  | nil => rfl
  | cons step rest ih =>
    cases step with
    | one test => rw [answers, ih, answersOne_ends]
    | many test => rw [answers, ih, answersMany_ends]

theorem accepts_eq (steps : List Step) (s : List Char) :
    accepts isEnd steps s = takes isEnd steps s := by
  rw [accepts, answers_eq, headD_map_ends]

end Step

end PatchReview.Glob
