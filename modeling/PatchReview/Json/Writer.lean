import PatchReview.Text.Order
import PatchReview.Value

/-! Writing values as JSON.

A layout says whether the output is spread over lines, whether keys are sorted and whether
characters beyond ASCII are escaped. Entries keep their order unless keys are sorted. A moment
has no JSON form, and an integer with too many digits is not written; the failure is the
first of these that would have to be written. -/
namespace PatchReview.Json

structure Layout where
  /-- Spaces per level; without them everything stays on one line. -/
  indent : Option Nat
  sortKeys : Bool
  /-- Whether characters beyond printable ASCII are escaped. -/
  asciiOnly : Bool
  deriving DecidableEq, Repr

/-- Four digits of hexadecimal, after a backslash and the letter. -/
def unicodeEscape (n : Nat) : List Char := '\\' :: 'u' :: Text.hexDigits n 4

variable [Text.StandIns]

/-- A character inside quotes. -/
def escapeChar (asciiOnly : Bool) (c : Char) : List Char :=
  let n := Text.Surrogate.code c
  if c == '"' then ['\\', '"']
  else if c == '\\' then ['\\', '\\']
  else if c == '\n' then ['\\', 'n']
  else if c == '\r' then ['\\', 'r']
  else if c == '\t' then ['\\', 't']
  else if n == 8 then ['\\', 'b']
  else if n == 12 then ['\\', 'f']
  else if n < 32 then unicodeEscape n
  else if asciiOnly && 0x10000 ≤ n then
    unicodeEscape (Text.Surrogate.firstHalf + (n - 0x10000) / 0x400) ++
      unicodeEscape (Text.Surrogate.firstLowHalf + (n - 0x10000) % 0x400)
  else if asciiOnly && 127 ≤ n then unicodeEscape n
  else [c]

/-- A text in quotes. -/
def writeText (asciiOnly : Bool) (s : List Char) : List Char :=
  '"' :: s.flatMap (escapeChar asciiOnly) ++ ['"']

/-- Numbers that are no decimal numbers are written by name. -/
def floatLayout : Binary64.DecimalLayout :=
  { Binary64.plainLayout with nan := "NaN", infinity := "Infinity" }

/-- A line break and the indentation of a level, or nothing on one line. -/
def breakTo (layout : Layout) (level : Nat) : List Char :=
  match layout.indent with
  | none => []
  | some width => '\n' :: List.replicate (width * level) ' '

/-- Between two items: a comma, then a line break or a space. -/
def separator (layout : Layout) (level : Nat) : List Char :=
  match layout.indent with
  | none => [',', ' ']
  | some _ => ',' :: breakTo layout level

/-- Entries in the order in which they are written. -/
def arrange {α : Type} (layout : Layout) (entries : List (String × α)) : List (String × α) :=
  if layout.sortKeys then entries.mergeSort fun a b => Text.inOrder a.1 b.1 else entries

/-- Items within brackets, each on its level. -/
def enclose (layout : Layout) (level : Nat) (first last : Char) (items : List (List Char)) :
    List Char :=
  if items.isEmpty then [first, last]
  else
    first :: breakTo layout (level + 1) ++ (separator layout (level + 1)).intercalate items ++
      breakTo layout level ++ [last]

def writeEntry (layout : Layout) (entry : String × List Char) : List Char :=
  writeText layout.asciiOnly entry.1.toList ++ ':' :: ' ' :: entry.2

mutual

/-- A value at a level of nesting. -/
def writeValue (layout : Layout) (level : Nat) : Value → Outcome (List Char)
  | .null => .ok ['n', 'u', 'l', 'l']
  | .bool true => .ok ['t', 'r', 'u', 'e']
  | .bool false => .ok ['f', 'a', 'l', 's', 'e']
  | .int i => if Text.isWritable i then .ok (toString i).toList else .error (.numeral .unwritable)
  | .float x => .ok (x.textIn floatLayout).toList
  | .text s => .ok (writeText layout.asciiOnly s.toList)
  | .moment m => .error (.unwritable m.kindName)
  | .list items => (writeItems layout (level + 1) items).map (enclose layout level '[' ']')
  | .table entries => do
    let written ← (arrange layout (writeEntries layout (level + 1) entries)).mapM fun (key, v) =>
      v.map fun text => writeEntry layout (key, text)
    return enclose layout level '\x7b' '\x7d' written

def writeItems (layout : Layout) (level : Nat) : List Value → Outcome (List (List Char))
  | [] => .ok []
  | v :: rest => do
    let first ← writeValue layout level v
    let others ← writeItems layout level rest
    return first :: others

def writeEntries (layout : Layout) (level : Nat) :
    List (String × Value) → List (String × Outcome (List Char))
  | [] => []
  | (key, v) :: rest => (key, writeValue layout level v) :: writeEntries layout level rest

end

/-- The JSON text of a value. -/
def write (layout : Layout) (v : Value) : Outcome String :=
  (writeValue layout 0 v).map String.ofList

end PatchReview.Json
