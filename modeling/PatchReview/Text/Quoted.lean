import PatchReview.Text.Hex
import PatchReview.Text.Printable
import PatchReview.Text.StandIn

/-! Quoted texts, as messages and listings show them.

A text stands between single quotes, or between double quotes if it holds a single quote
and no double one. Backslashes and the chosen quote are escaped, tab, newline and carriage
return have letters of their own, and every other character that does not print is written
by its code in hexadecimal. -/
namespace PatchReview.Text

variable [StandIns]

/-- A character within quotes of the kind `quote`. -/
def quotedChar (quote : Char) (c : Char) : List Char :=
  let n := Surrogate.code c
  if c == quote || c == '\\' then ['\\', c]
  else if c == '\t' then ['\\', 't']
  else if c == '\n' then ['\\', 'n']
  else if c == '\r' then ['\\', 'r']
  else if isPrintable c then [c]
  else if n < 0x100 then '\\' :: 'x' :: hexDigits n 2
  else if n < 0x10000 then '\\' :: 'u' :: hexDigits n 4
  else '\\' :: 'U' :: hexDigits n 8

/-- Double quotes only where they save an escape. -/
def quoteFor (s : List Char) : Char :=
  if s.contains '\'' && !s.contains '"' then '"' else '\''

/-- The text between quotes. -/
def quotedChars (s : List Char) : List Char :=
  let quote := quoteFor s
  quote :: s.flatMap (quotedChar quote) ++ [quote]

/-- The text between quotes. -/
def quoted (s : String) : String := String.ofList (quotedChars s.toList)

end PatchReview.Text
