import PatchReview.Diff.Header
import PatchReview.Keyed
import PatchReview.Text.Lines

/-! The per-file blocks of a diff.

A diff is cut at its file headers into sections; what stands before the first header belongs
to no file. The block of a file is its section without blanks at the end and closed by one
newline, under the target path with `b/` in front. Of several sections for one path the last
one is kept, in the place of the first. -/
namespace PatchReview.Diff

open Text

/-- A file header's target, and the lines from the header to the next one. -/
structure Section where
  path : List Char
  lines : List (List Char)
  deriving DecidableEq, Repr

/-- The lines before the first file header, and the sections from there on. -/
def cutSections : List (List Char) → List (List Char) × List Section
  | [] => ([], [])
  | line :: rest =>
    let (before, sections) := cutSections rest
    match fileTarget? line with
    | some path => ([], ⟨path, line :: before⟩ :: sections)
    | none => (line :: before, sections)

/-- The sections of a diff. -/
def sections (diff : List Char) : List Section := (cutSections (splitLines diff)).2

/-- A section's text without blanks at the end, closed by one newline. -/
def Section.block (s : Section) : String := String.ofList (trimEnd (joinLines s.lines) ++ ['\n'])

/-- The name of a section's block. -/
def Section.key (s : Section) : String := "b/" ++ String.ofList s.path

/-- The block of each file, by name. -/
abbrev Blocks := Keyed String String

/-- The blocks of all files of a diff. -/
def blocks (diff : String) : Blocks :=
  Keyed.ofList ((sections diff.toList).map fun s => (s.key, s.block))

/-- Where the first hunk of a block starts, in digits. -/
def firstStart? (block : String) : Option (List Char) :=
  (splitLines block.toList).findSome? hunkStart?

/-- Where the first hunk of a block starts, if its digits are within a limit; zero for a block
without a hunk. -/
def startLineWithin (limit : Option Nat) (block : String) : Except NumeralError Nat :=
  match firstStart? block with
  | none => .ok 0
  | some digits => readNaturalWithin limit digits

/-- Where the first hunk of a block starts; zero for a block without a hunk. -/
def startLine : String → Except NumeralError Nat := startLineWithin (some digitLimit)

end PatchReview.Diff
