import PatchReview.Diff.Header
import PatchReview.Keyed
import PatchReview.Text.Lines

/-! The lines that a diff adds.

A diff is read line by line. A target header names the file from there on, a hunk header the
number of the next added line; a line behind a plus sign is added and moves the number on.
One that starts with three plus signs is counted but not recorded. `AddedLines.ofLines` takes
the start of a hunk at its value; `AddedLines.ofDiff` refuses a diff in which some start has
too many digits, and is the same on every other diff. -/
namespace PatchReview

/-- A line that a diff adds, with its number in the changed file. -/
structure AddedLine where
  number : Int
  content : String
  deriving DecidableEq, Repr

/-- The added lines of each file that a diff names, in the order of the first naming. -/
abbrev AddedLines := Keyed String (List AddedLine)

namespace AddedLines

open Diff

/-- Where reading stands between two lines. -/
structure Cursor where
  files : AddedLines
  /-- The file named by the last target header. -/
  file : Option String
  /-- The number of the next added line, once a hunk has started. -/
  next : Option Int
  deriving Repr

def Cursor.start : Cursor := ⟨[], none, none⟩

/-- One line further. -/
def Cursor.step (c : Cursor) (line : List Char) : Cursor :=
  match targetPath? line with
  | some path =>
    let path := String.ofList path
    ⟨c.files.alter path (·.getD []), some path, none⟩
  | none =>
    match hunkStart? line with
    | some digits => { c with next := some (Text.digitsValue digits : Nat) }
    | none =>
      match c.next, line with
      | some n, '+' :: content =>
        let files :=
          if Text.startsWith ['+', '+'] content then c.files
          else c.files.alter (c.file.getD "") fun lines =>
            lines.getD [] ++ [⟨n, String.ofList content⟩]
        { c with files := files, next := some (n + 1) }
      | _, _ => c

/-- The added lines of a diff given as lines. -/
def ofLines (lines : List (List Char)) : AddedLines := (lines.foldl Cursor.step .start).files

/-- The length of the first hunk start that has too many digits. -/
def oversizedStart? (lines : List (List Char)) : Option Nat :=
  (lines.filterMap hunkStart?).findSome? fun digits =>
    if Text.digitLimit < digits.length then some digits.length else none

/-- The added lines of a diff. -/
def ofDiff (diff : String) : Except Text.NumeralError AddedLines :=
  let lines := Text.splitLines diff.toList
  match oversizedStart? lines with
  | some digits => .error (.tooLong digits)
  | none => .ok (ofLines lines)

end AddedLines

end PatchReview
