import PatchReview.Glob.Step
import PatchReview.Pattern.Matcher
import PatchReview.Pattern.Reader

/-! Path patterns in which no wildcard spans directories.

A star takes a text without slashes, a question mark one character that is no slash, and a
set in brackets one of its characters; behind `!` or `^` it takes a character that is
neither in the set nor a slash. A bracket that is never closed is a character. In a set a
hyphen between two characters makes a range, which must not be empty; the slash that a
negated set keeps out stands in front of its first character and so can start one.

A negated set whose first character is a closing bracket is closed by it; what follows up to
the next closing bracket is then taken as a regular expression, and so is the pattern as a
whole (`Compiled.expression`). -/
namespace PatchReview.Glob.Pathname

open Pattern (SetItem)
open Text (StandIns)
open Text.Surrogate (code codes)

/-- A part of a pattern as it is written. -/
inductive Part where
  | withinSegment
  | one
  | set (negated : Bool) (body : List Char)
  | char (c : Char)
  deriving DecidableEq, Repr

/-- A set behind its opening bracket, and what follows it. -/
def cutSet (s : List Char) : Option (Part × List Char) :=
  match s with
  | '!' :: s | '^' :: s => (cutBody s).map fun (body, rest) => (.set true body, rest)
  | s => (cutBody s).map fun (body, rest) => (.set false body, rest)

theorem length_of_cutSet {s rest : List Char} {part : Part} (h : cutSet s = some (part, rest)) :
    rest.length < s.length := by
  have key {negated : Bool} {t : List Char}
      (h : (cutBody t).map (fun (body, rest) => (Part.set negated body, rest)) =
        some (part, rest)) :
      rest.length < t.length := by
    obtain ⟨⟨x, r⟩, hbr, he⟩ := Option.map_eq_some_iff.1 h
    simp only [Prod.mk.injEq] at he
    exact length_of_cutBody (b := x) (he.2 ▸ hbr)
  unfold cutSet at h
  split at h
  · exact Nat.lt_succ_of_lt (key h)
  · exact Nat.lt_succ_of_lt (key h)
  · exact key h

/-- The parts of a pattern. -/
def parts : List Char → List Part
  | [] => []
  | '*' :: s => .withinSegment :: parts s
  | '?' :: s => .one :: parts s
  | '[' :: s =>
    match _h : cutSet s with
    | some (part, rest) => part :: parts rest
    | none => .char '[' :: parts s
  | c :: s => .char c :: parts s
termination_by s => s.length
decreasing_by
  all_goals simp only [List.length_cons]
  all_goals try omega
  have := length_of_cutSet _h
  omega

variable [StandIns]

/-- The items of a set, by its characters. -/
def setItems : List Char → Except Pattern.Fault (List SetItem)
  | [] => .ok []
  | low :: '-' :: high :: s =>
    if code high < code low then .error .badRange
    else (setItems s).map (.range (code low) (code high) :: ·)
  | c :: s => (setItems s).map (.code (code c) :: ·)

/-- A part of a pattern as it is matched. -/
inductive Piece where
  | withinSegment
  | one
  | set (negated : Bool) (items : List SetItem)
  | char (c : Char)
  deriving DecidableEq, Repr

def Part.piece : Part → Except Pattern.Fault Piece
  | withinSegment => .ok .withinSegment
  | one => .ok .one
  | set false body => (setItems body).map (.set false)
  | set true body => (setItems ('/' :: body)).map (.set true)
  | char c => .ok (.char c)

/-- What a piece takes. -/
def Piece.step : Piece → Step
  | withinSegment => .many (· != '/')
  | one => .one (· != '/')
  | set negated items => .one fun c => Pattern.setTakes .exact negated items (code c)
  | char d => .one (· == d)

/-- Whether a set is closed by its own first character. -/
def Part.isCutShort : Part → Bool
  | set true (']' :: _) => true
  | _ => false

/-- The characters that mean something in a regular expression. -/
def specialChars : List Char := "()[]\x7b\x7d?*+-|^$\\.&~# \t\n\r\x0b\x0c".toList

/-- A part as a regular expression. -/
def Part.expression : Part → List Char
  | withinSegment => "[^/]*".toList
  | one => "[^/]".toList
  | set false body => '[' :: body ++ [']']
  | set true body => "[^/".toList ++ body ++ [']']
  | char c => if specialChars.contains c then ['\\', c] else [c]

/-- A pattern that is ready to be matched. -/
inductive Compiled where
  | pieces (list : List Piece)
  | expression (search : Pattern.Search)

/-- The pattern of the given parts, or what is wrong with it. -/
def compileParts (parts : List Part) : Except Pattern.Fault Compiled :=
  if parts.any Part.isCutShort then
    let text := "(?s)^".toList ++ parts.flatMap Part.expression ++ ['$']
    (Pattern.read (String.ofList text)).map .expression
  else (parts.mapM Part.piece).map .pieces

/-- A pattern made ready, or what is wrong with it. -/
def compile (pattern : String) : Except Pattern.Fault Compiled :=
  compileParts (parts (unifySeparators pattern.toList))

def Compiled.takes : Compiled → List Char → Bool
  | pieces list, s => Step.accepts atPathEnd (list.map Piece.step) s
  | expression search, s => search.matchesStart (codes s).toArray

/-- Whether a pattern takes a path. -/
def accepts (pattern path : String) : Except Pattern.Fault Bool :=
  (compile pattern).map (·.takes (unifySeparators path.toList))

end PatchReview.Glob.Pathname
