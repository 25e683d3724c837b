import PatchReview.Failure
import PatchReview.Keyed
import PatchReview.Moment
import PatchReview.Number.Binary64
import PatchReview.Text.Quoted

/-! Values as settings, rule files and replies hold them.

A table keeps its entries in order. `Value.plain` is the plain text of a value, which is what
a field of a finding or a rule takes from it; `Value.literal` is how the value is listed
inside a list or a table. Integers that are too long are not written (`Value.plainText`).
`isFilled` separates the values that count as given from those that leave a field at its
default. -/
namespace PatchReview

inductive Value where
  | null
  | bool (b : Bool)
  | int (i : Int)
  | float (x : Binary64)
  | text (s : String)
  | moment (m : Moment)
  | list (items : List Value)
  | table (entries : List (String × Value))
  deriving Repr, Inhabited

/-- The entries of a table. -/
abbrev Entries := Keyed String Value

namespace Value
variable [Text.StandIns]

/-- Whether a value counts as given: not null, false, zero or empty. -/
def isFilled : Value → Bool
  | null => false
  | bool b => b
  | int i => i != 0
  | float x => !x.isZero
  | text s => s != ""
  | moment _ => true
  | list items => !items.isEmpty
  | table entries => !entries.isEmpty

/-- The word for the kind of a value in messages. -/
def kindName : Value → String
  | null => "NoneType"
  | bool _ => "bool"
  | int _ => "int"
  | float _ => "float"
  | text _ => "str"
  | moment m => "datetime." ++ m.kindName
  | list _ => "list"
  | table _ => "dict"

mutual

/-- How a value is listed inside a list or a table. -/
def literal : Value → String
  | .null => "None"
  | .bool true => "True"
  | .bool false => "False"
  | .int i => toString i
  | .float x => x.text
  | .text s => Text.quoted s
  | .moment m => m.literal
  | .list items => "[" ++ ", ".intercalate (literals items) ++ "]"
  | .table entries => "\x7b" ++ ", ".intercalate (entryLiterals entries) ++ "\x7d"

def literals : List Value → List String
  | [] => []
  | v :: rest => literal v :: literals rest

def entryLiterals : List (String × Value) → List String
  | [] => []
  | (key, v) :: rest => (Text.quoted key ++ ": " ++ literal v) :: entryLiterals rest

end

/-- The plain text of a value: a text stands for itself, and so does a moment. -/
def plain : Value → String
  | text s => s
  | moment m => m.text
  | v => v.literal

mutual

/-- Whether every integer in a value can be written. -/
def isWritable : Value → Bool
  | .int i => Text.isWritable i
  | .list items => areWritable items
  | .table entries => entriesWritable entries
  | _ => true

def areWritable : List Value → Bool
  | [] => true
  | v :: rest => isWritable v && areWritable rest

def entriesWritable : List (String × Value) → Bool
  | [] => true
  | (_, v) :: rest => isWritable v && entriesWritable rest

end

/-- The plain text of a value, if it can be written. -/
def plainText (v : Value) : Outcome String :=
  if v.isWritable then .ok v.plain else .error (.numeral .unwritable)

/-- The plain text of a value that counts as given, and otherwise the default. -/
def plainOr (default : String) : Option Value → Outcome String
  | some v => if v.isFilled then v.plainText else .ok default
  | none => .ok default

mutual

/-- How deep lists and tables are nested in a value. -/
def depth : Value → Nat
  | .list items => depthOfItems items + 1
  | .table entries => depthOfEntries entries + 1
  | _ => 0

def depthOfItems : List Value → Nat
  | [] => 0
  | v :: rest => max (depth v) (depthOfItems rest)

def depthOfEntries : List (String × Value) → Nat
  | [] => 0
  | (_, v) :: rest => max (depth v) (depthOfEntries rest)

end

/-- The items that a value consists of: those of a list, the characters of a text, the keys of
a table. -/
def items : Value → Outcome (List Value)
  | .list items => .ok items
  | .text s => .ok (s.toList.map fun c => .text (String.ofList [c]))
  | .table entries => .ok (entries.map fun (key, _) => .text key)
  | v => .error (.noItems v.kindName)

/-- A list of texts as a value. -/
def texts (items : List String) : Value := .list (items.map .text)

end Value

end PatchReview
