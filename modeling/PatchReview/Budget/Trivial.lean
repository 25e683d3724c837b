import PatchReview.Text.Lines
import PatchReview.Text.Scan

/-! Added lines that are not worth a review.

These are blank lines, reminders in comments, imports, and annotations in comment blocks.
Only added lines are ever dropped. -/
namespace PatchReview.Budget

open Text

/-- A comment that starts with a reminder. -/
def isReminder (s : List Char) : Bool :=
  match afterAny? ["//", "#"] s with
  | some rest => (afterAny? ["TODO", "FIXME", "XXX"] (trimStart rest)).isSome
  | none => false

/-- The import of a name. -/
def isImport (s : List Char) : Bool := (((after? ['u', 's', 'e'] s).bind afterBlanks?).isSome)

/-- An annotation in a comment block. -/
def isAnnotation (s : List Char) : Bool :=
  match s with
  | '*' :: rest => startsWith ['@'] (trimStart rest)
  | _ => false

/-- Whether an added line is not worth a review. -/
def isTrivial (line : List Char) : Bool :=
  match line with
  | '+' :: s =>
    let s := trimStart s
    s.isEmpty || isReminder s || isImport s || isAnnotation s
  | _ => false

/-- A diff without the added lines that are not worth a review. -/
def withoutTrivial (diff : String) : String :=
  String.ofList (joinLines ((splitNewlines diff.toList).filter (!isTrivial ·)))

end PatchReview.Budget
