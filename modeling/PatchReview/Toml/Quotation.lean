import PatchReview.Text.Hex
import PatchReview.Text.Scan
import PatchReview.Toml.Fault

/-! Quoted texts in TOML.

Double quotes allow escapes, single quotes do not. Three quotes of a kind allow line breaks;
a line break right behind them is dropped, and up to two more quotes before the closing ones
belong to the text. Between three double quotes a backslash at the end of a line takes away
the line break and all blanks behind it. -/
namespace PatchReview.Toml

open Text

/-- What the letter behind a backslash stands for. -/
def escaped? : Char → Option Char
  | 'b' => some (Char.ofNat 8)
  | 't' => some '\t'
  | 'n' => some '\n'
  | 'f' => some (Char.ofNat 12)
  | 'r' => some '\r'
  | '"' => some '"'
  | '\\' => some '\\'
  | _ => none

/-- The character of some hexadecimal digits. -/
def codePoint? (digits : List Char) : Option Char :=
  let n := hexRunValue digits
  if digits.all isHexDigit && decide n.isValidChar then some (Char.ofNat n) else none

/-- Puts a character in front of what a reader takes. -/
def Reading.cons (c : Char) (r : Reading (List Char)) : Reading (List Char) :=
  r.map fun (text, rest) => (c :: text, rest)

/-- A character by its digits, in front of what a reader takes. -/
def Reading.consCode (digits : List Char) (r : Reading (List Char)) : Reading (List Char) :=
  match codePoint? digits with
  | some c => Reading.cons c r
  | none => .error .escape

/-- A text between double quotes, from behind the first. -/
def basicText : List Char → Reading (List Char)
  | [] => .error .unclosed
  | '"' :: s => .ok ([], s)
  | '\\' :: 'u' :: a :: b :: c :: d :: s => Reading.consCode [a, b, c, d] (basicText s)
  | '\\' :: 'U' :: a :: b :: c :: d :: e :: f :: g :: h :: s =>
    Reading.consCode [a, b, c, d, e, f, g, h] (basicText s)
  | '\\' :: e :: s =>
    match escaped? e with
    | some c => Reading.cons c (basicText s)
    | none => .error .escape
  | c :: s => if isIllegal c || c == '\\' then .error .character else Reading.cons c (basicText s)

/-- What may still be skipped behind a backslash. -/
inductive Skipping where
  | nothing
  /-- Spaces up to the end of the line. -/
  | toLineEnd
  /-- Spaces and line breaks. -/
  | blanks
  deriving DecidableEq, Repr

/-- A text between three double quotes, from behind the first ones. -/
def basicLines : Skipping → List Char → Reading (List Char)
  | _, [] => .error .unclosed
  | .toLineEnd, c :: s =>
    if c == '\n' then basicLines .blanks s
    else if isSpace c then basicLines .toLineEnd s
    else .error .escape
  | .blanks, c :: s =>
    if isSpace c || c == '\n' then basicLines .blanks s else basicLines .nothing (c :: s)
  | .nothing, '"' :: '"' :: '"' :: s => .ok ([], s)
  | .nothing, '\\' :: 'u' :: a :: b :: c :: d :: s =>
    Reading.consCode [a, b, c, d] (basicLines .nothing s)
  | .nothing, '\\' :: 'U' :: a :: b :: c :: d :: e :: f :: g :: h :: s =>
    Reading.consCode [a, b, c, d, e, f, g, h] (basicLines .nothing s)
  | .nothing, '\\' :: e :: s =>
    if e == '\n' then basicLines .blanks s
    else if isSpace e then basicLines .toLineEnd s
    else
      match escaped? e with
      | some c => Reading.cons c (basicLines .nothing s)
      | none => .error .escape
  | .nothing, c :: s =>
    if (isIllegal c && c != '\n') || c == '\\' then .error .character
    else Reading.cons c (basicLines .nothing s)
termination_by skipping s => (s.length, if skipping = .nothing then 0 else 1)

/-- A text between single quotes, from behind the first. -/
def literalText : List Char → Reading (List Char)
  | [] => .error .unclosed
  | '\'' :: s => .ok ([], s)
  | c :: s => if isIllegal c then .error .character else Reading.cons c (literalText s)

/-- A text between three single quotes, from behind the first ones. -/
def literalLines : List Char → Reading (List Char)
  | [] => .error .unclosed
  | '\'' :: '\'' :: '\'' :: s => .ok ([], s)
  | c :: s =>
    if isIllegal c && c != '\n' then .error .character else Reading.cons c (literalLines s)

/-- Without a line break in front. -/
def dropLineBreak : List Char → List Char
  | '\n' :: s => s
  | s => s

/-- Up to two quotes behind the closing ones belong to the text. -/
def withExtraQuotes (quote : Char) (r : Reading (List Char)) : Reading (List Char) :=
  r.map fun (text, rest) =>
    let extra := (rest.takeWhile (· == quote)).take 2
    (text ++ extra, rest.drop extra.length)

/-- A quoted text on one line, as keys may be written. -/
def lineText? (s : List Char) : Option (Reading (List Char)) :=
  match s with
  | '"' :: s => some (basicText s)
  | '\'' :: s => some (literalText s)
  | _ => none

/-- A quoted text. -/
def quotedText? (s : List Char) : Option (Reading (List Char)) :=
  match s with
  | '"' :: '"' :: '"' :: s => some (withExtraQuotes '"' (basicLines .nothing (dropLineBreak s)))
  | '\'' :: '\'' :: '\'' :: s => some (withExtraQuotes '\'' (literalLines (dropLineBreak s)))
  | s => lineText? s

end PatchReview.Toml
