/-! Paths as they are written.

A path starts at the working directory, or behind one or two slashes at the root, and leads
on through its parts. Parts that are empty or a single point lead nowhere and are dropped; two
points lead back and are kept. -/
namespace PatchReview

structure Path where
  /-- The slashes at the start: none, one or two. -/
  slashes : Nat
  parts : List String
  deriving DecidableEq, Repr

namespace Path

/-- The texts between slashes. -/
def cutAtSlashes : List Char → List (List Char)
  | [] => [[]]
  | '/' :: s => [] :: cutAtSlashes s
  | c :: s =>
    match cutAtSlashes s with
    | [] => [[c]]
    | part :: rest => (c :: part) :: rest

/-- Whether a part leads anywhere. -/
def leads (part : String) : Bool := part != "" && part != "."

/-- How many slashes a path starts with; more than two count as one. -/
def startSlashes (s : List Char) : Nat :=
  match (s.takeWhile (· == '/')).length with
  | 0 => 0
  | 2 => 2
  | _ => 1

def ofText (text : String) : Path where
  slashes := startSlashes text.toList
  parts := ((cutAtSlashes text.toList).map String.ofList).filter leads

def text (p : Path) : String :=
  if p.slashes = 0 && p.parts.isEmpty then "."
  else String.ofList (List.replicate p.slashes '/') ++ "/".intercalate p.parts

def isAbsolute (p : Path) : Bool := p.slashes != 0

/-- A path seen from another one. -/
def join (p q : Path) : Path := if q.isAbsolute then q else { p with parts := p.parts ++ q.parts }

/-- The last part; none if there is none. -/
def name (p : Path) : String := p.parts.getLast?.getD ""

/-- The last part of a name from its last point on, if something stands on both sides. -/
def suffix (p : Path) : String :=
  let s := p.name.toList
  let behind := (s.reverse.takeWhile (· != '.')).reverse
  if behind.isEmpty || s.length ≤ behind.length + 1 then ""
  else String.ofList ('.' :: behind)

end Path

end PatchReview
