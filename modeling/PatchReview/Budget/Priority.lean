import PatchReview.Text.Scan

/-! How much a line of a diff matters.

Headers come before changed lines and declarations, these before comments, then any other
text and last blank lines. Blanks around a line do not count. -/
namespace PatchReview.Budget

open Text

/-- What lines start with that give a diff its structure. -/
def headerMarks : List String := ["diff --git", "@@", "+++", "---", "\\ No newline"]

def declarationWords : List String :=
  ["class", "interface", "trait", "function", "public", "private", "protected", "namespace", "use"]

def commentMarks : List String := ["//", "/*", "*", "#"]

/-- Four for headers, three for changes and declarations, two for comments, one for other
text, zero for blank lines. -/
def linePriority (line : List Char) : Nat :=
  let s := trim line
  if (afterAny? headerMarks s).isSome then 4
  else if (afterAny? ["+", "-"] s).isSome then 3
  else if (afterAny? declarationWords s).isSome then 3
  else if (afterAny? commentMarks s).isSome then 2
  else if s.isEmpty then 0
  else 1

end PatchReview.Budget
