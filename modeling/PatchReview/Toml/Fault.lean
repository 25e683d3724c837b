import PatchReview.Text.Numeral

/-! What can be wrong with a TOML document. -/
namespace PatchReview.Toml

inductive Fault where
  | statement
  | lineEnd
  | key
  | value
  | character
  | escape
  | unclosed
  | date
  /-- A key is given a value, or a table is opened, where that is no longer possible. -/
  | redefinition
  /-- An integer cannot be taken. -/
  | numeral (e : Text.NumeralError)
  /-- Arrays and inline tables are nested too deep. -/
  | tooDeep
  deriving DecidableEq, Repr

def Fault.message : Fault → String
  | statement => "Invalid statement"
  | lineEnd => "Expected newline or end of document after a statement"
  | key => "Invalid key"
  | value => "Invalid value"
  | character => "Illegal character"
  | escape => "Unescaped '\\' in a string"
  | unclosed => "Unterminated string, array or table"
  | date => "Invalid date or datetime"
  | redefinition => "Cannot overwrite a value"
  | numeral _ => "Invalid integer"
  | tooDeep => "Nested too deep"

/-- What a reader took, and the rest of the text. -/
abbrev Reading (α : Type) := Except Fault (α × List Char)

/-- A control character other than the tab. -/
def isIllegal (c : Char) : Bool := (c.toNat < 32 && c != '\t') || c.toNat == 127

/-- A space or a tab. -/
def isSpace (c : Char) : Bool := c == ' ' || c == '\t'

def skipSpaces (s : List Char) : List Char := s.dropWhile isSpace

end PatchReview.Toml
