import PatchReview.Pattern.Folding
import PatchReview.Text.Scan

/-! Hiding secrets.

A secret is a keyword, a colon or an equals sign, and a value of four characters or more
that are neither blanks nor quotes. Keywords are found in any case and inside longer words;
the value, as long as it goes, gives way to three stars. -/
namespace PatchReview.Redaction

open Text

/-- Behind a word in any case. -/
def afterWord? : List Char → List Char → Option (List Char)
  | [], s => some s
  | _ :: _, [] => none
  | a :: word, c :: s =>
    if Pattern.Folding.unicode.takes a.toNat c.toNat then afterWord? word s else none

/-- Behind the keyword for keys, in which a hyphen or an underscore may stand. -/
def afterKey? (s : List Char) : Option (List Char) := do
  let s ← afterWord? "api".toList s
  match s with
  | '_' :: s | '-' :: s => afterWord? "key".toList s
  | s => afterWord? "key".toList s

def afterKeyword? (s : List Char) : Option (List Char) :=
  afterWord? "password".toList s <|> afterWord? "secret".toList s <|> afterKey? s

/-- Behind a colon or an equals sign, with blanks around. -/
def afterSign? (s : List Char) : Option (List Char) :=
  match trimStart s with
  | ':' :: s | '=' :: s => some (trimStart s)
  | _ => none

/-- The characters of a value. -/
def isValueChar (c : Char) : Bool := !isBlank c && c != '\'' && c != '"'

/-- The least length of a value. -/
def leastValue : Nat := 4

/-- The part of a secret that stays, and the length of the whole. -/
def secretAt? (s : List Char) : Option (List Char × Nat) := do
  let rest ← afterSign? (← afterKeyword? s)
  let value := rest.takeWhile isValueChar
  if value.length < leastValue then none
  else
    let kept := s.length - rest.length
    return (s.take kept, kept + value.length)

/-- What stands for a value. -/
def stars : List Char := ['*', '*', '*']

/-- A text behind `skip` characters of the last secret. -/
def redactFrom : Nat → List Char → List Char
  | _, [] => []
  | skip + 1, _ :: s => redactFrom skip s
  | 0, c :: s =>
    match secretAt? (c :: s) with
    | some (kept, length) => kept ++ stars ++ redactFrom (length - 1) s
    | none => c :: redactFrom 0 s

/-- A text without its secrets. -/
def redact (s : String) : String := String.ofList (redactFrom 0 s.toList)

end PatchReview.Redaction
