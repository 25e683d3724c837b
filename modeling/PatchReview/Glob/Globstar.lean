import PatchReview.Glob.Step

/-! Path patterns in which two stars span directories.

Two stars take any text, a star takes a text without slashes, a question mark takes any one
character, and every other character takes itself. Wildcards are first put down as words
between zero characters and then read back word by word, longer wildcards first; so a word
that happens to stand between two wildcards reads as one of them. -/
namespace PatchReview.Glob.Globstar

inductive Piece where
  | anything
  | withinSegment
  | one
  | char (c : Char)
  deriving DecidableEq, Repr

/-- The word that a wildcard is put down as. -/
def word (name : String) : List Char := '\x00' :: name.toList ++ ['\x00']

/-- A pattern with its wildcards put down as words. -/
def marked : List Char → List Char
  | '*' :: '*' :: s => word "GLOBSTAR" ++ marked s
  | '*' :: s => word "STAR" ++ marked s
  | '?' :: s => word "QMARK" ++ marked s
  | c :: s => c :: marked s
  | [] => []

/-- Puts a piece in the place of each occurrence of a word, from the left; `skip` pieces in
front belong to the last occurrence. -/
def collect (word : List Char) (piece : Piece) : Nat → List Piece → List Piece
  | _, [] => []
  | skip + 1, _ :: rest => collect word piece skip rest
  | 0, p :: rest =>
    if (word.map Piece.char).isPrefixOf (p :: rest) then
      piece :: collect word piece (word.length - 1) rest
    else p :: collect word piece 0 rest

/-- The pieces of a pattern. -/
def pieces (pattern : List Char) : List Piece :=
  let chars := (marked pattern).map Piece.char
  let chars := collect (word "GLOBSTAR") .anything 0 chars
  let chars := collect (word "STAR") .withinSegment 0 chars
  collect (word "QMARK") .one 0 chars

/-- What a piece takes. -/
def Piece.step : Piece → Step
  | anything => .many fun _ => true
  | withinSegment => .many (· != '/')
  | one => .one fun _ => true
  | char d => .one (· == d)

/-- Whether a pattern takes a path. -/
def accepts (pattern path : String) : Bool :=
  Step.accepts atPathEnd ((pieces (unifySeparators pattern.toList)).map Piece.step)
    (unifySeparators path.toList)

end PatchReview.Glob.Globstar
