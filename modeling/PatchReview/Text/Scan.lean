import PatchReview.Text.Blank
import PatchReview.Text.Numeral

/-! Taking a text apart from its front.

Each function names what has to stand in front and gives the rest behind it, or nothing if
something else stands there. `after?_eq_some_iff` says so for a literal text. -/
namespace PatchReview.Text

/-- The rest behind a literal text. -/
def after? : List Char → List Char → Option (List Char)
  | [], s => some s
  | _ :: _, [] => none
  | a :: literal, b :: s => if a = b then after? literal s else none

theorem after?_eq_some_iff (literal s rest : List Char) :
    after? literal s = some rest ↔ s = literal ++ rest := by
  induction literal generalizing s with
  | nil => simp [after?, eq_comm]
  | cons a literal ih =>
    cases s with
    | nil => simp [after?]
    | cons b s =>
      by_cases h : a = b
      · simp [after?, h, ih]
      · simp [after?, h, Ne.symm h]

/-- Whether the text starts with a literal text. -/
def startsWith (literal s : List Char) : Bool := (after? literal s).isSome

/-- The rest behind one of several literal texts, the first that fits. -/
def afterAny? (literals : List String) (s : List Char) : Option (List Char) :=
  literals.findSome? fun literal => after? literal.toList s

/-- The rest behind one blank or more. -/
def afterBlanks? : List Char → Option (List Char)
  | c :: s => if isBlank c then some (trimStart s) else none
  | [] => none

/-- A run of one digit or more, and the rest. -/
def takeNumber? (s : List Char) : Option (List Char × List Char) :=
  match s.span isDigit with
  | ([], _) => none
  | taken => some taken

/-- The first place, if any, where `p` finds something, looking at every end of the text. -/
def findSuffix? {α : Type u} (p : List Char → Option α) : List Char → Option α
  | [] => p []
  | c :: s => match p (c :: s) with
    | some a => some a
    | none => findSuffix? p s

/-- Whether a text occurs in another. -/
def occursIn (word s : List Char) : Bool :=
  (findSuffix? (fun t => if startsWith word t then some () else none) s).isSome

end PatchReview.Text
