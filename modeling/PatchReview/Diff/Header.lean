import PatchReview.Text.Scan

/-! The structural lines of a unified diff.

A file header (`diff --git a/… b/…`) opens the section of a file, a target header
(`+++ b/…`) names the file that the following hunks change, and a hunk header
(`@@ -… +… @@`) says where its added lines start. Each is recognised on a line of its own. -/
namespace PatchReview.Diff

open Text

/-- Behind the first ` b/` that has something behind it. -/
def targetOfPair? : List Char → Option (List Char)
  | [] => none
  | c :: s =>
    match after? [' ', 'b', '/'] (c :: s) with
    | some (p :: path) => some (p :: path)
    | _ => targetOfPair? s

/-- The path that a file header names as its target: behind the first ` b/` after at least one
character of the source path. -/
def fileTarget? (line : List Char) : Option (List Char) := do
  match ← after? "diff --git a/".toList line with
  | [] => none
  | _ :: s => targetOfPair? s

/-- The path that a target header names. -/
def targetPath? (line : List Char) : Option (List Char) := do
  let s ← afterBlanks? (← after? ['+', '+', '+'] line)
  match ← after? ['b', '/'] s with
  | [] => none
  | path => some path

/-- The rest behind a comma and a count, where they stand. -/
def skipCount (s : List Char) : List Char :=
  match s with
  | ',' :: rest =>
    match takeNumber? rest with
    | some (_, rest) => rest
    | none => s
  | _ => s

/-- The digits of a hunk header that say where its added lines start. -/
def hunkStart? (line : List Char) : Option (List Char) := do
  let s ← afterBlanks? (← after? ['@', '@'] line)
  let (_, s) ← takeNumber? (← after? ['-'] s)
  let s ← afterBlanks? (skipCount s)
  let (start, s) ← takeNumber? (← after? ['+'] s)
  let _ ← after? ['@', '@'] (← afterBlanks? (skipCount s))
  return start

end PatchReview.Diff
