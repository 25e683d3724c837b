import PatchReview.Value

/-! Names in texts that stand for something else.

A dollar sign with a name in braces is a reference; names consist of capitals, digits and
underscores. A reference to a name without a meaning stays as it is, and what a name stands
for is not looked at again. Values are followed down to a depth (`depthLimit`). -/
namespace PatchReview

/-- What names stand for. -/
abbrev Environment := Keyed String String

namespace Environment

def isNameChar (c : Char) : Bool := c.isUpper || c.isDigit || c == '_'

/-- The name in braces at the front of a text, and what follows. -/
def braced? : List Char → Option (List Char × List Char)
  | '\x7b' :: s =>
    match s.dropWhile isNameChar with
    | '\x7d' :: rest =>
      let name := s.takeWhile isNameChar
      if name.isEmpty then none else some (name, rest)
    | _ => none
  | _ => none

theorem length_of_braced? {s name rest : List Char} (h : braced? s = some (name, rest)) :
    rest.length < s.length := by
  unfold braced? at h
  split at h
  · next s =>
    split at h
    · next r hd =>
      have := (List.dropWhile_sublist isNameChar (l := s)).length_le
      simp only [hd, List.length_cons] at this
      dsimp only at h
      split at h
      · cases h
      · simp only [Option.some.injEq, Prod.mk.injEq] at h
        simp only [List.length_cons, ← h.2]
        omega
    · cases h
  · cases h

/-- A reference to a name. -/
def reference (name : List Char) : List Char := '$' :: '\x7b' :: name ++ ['\x7d']

/-- What a reference to a name becomes. -/
def meaning (env : Environment) (name : List Char) : List Char :=
  match env.get? (String.ofList name) with
  | some text => text.toList
  | none => reference name

/-- A text with its references replaced. -/
def expandChars (env : Environment) : List Char → List Char
  | [] => []
  | '$' :: s =>
    match _h : braced? s with
    | some (name, rest) => env.meaning name ++ expandChars env rest
    | none => '$' :: expandChars env s
  | c :: s => c :: expandChars env s
termination_by s => s.length
decreasing_by
  all_goals simp only [List.length_cons]
  all_goals try omega
  have := length_of_braced? _h
  omega

def expandText (env : Environment) (s : String) : String := String.ofList (env.expandChars s.toList)

mutual

/-- A value with the references in its texts replaced; keys stay as they are. -/
def expand (env : Environment) : Value → Value
  | .text s => .text (env.expandText s)
  | .list items => .list (expandItems env items)
  | .table entries => .table (expandEntries env entries)
  | v => v

def expandItems (env : Environment) : List Value → List Value
  | [] => []
  | v :: rest => expand env v :: expandItems env rest

def expandEntries (env : Environment) : List (String × Value) → List (String × Value)
  | [] => []
  | (key, v) :: rest => (key, expand env v) :: expandEntries env rest

end

/-- How deep a value may be nested for its references to be replaced. -/
def depthLimit : Nat := 490

/-- A value with its references replaced, unless it is nested too deep. -/
def expandValue (env : Environment) (v : Value) : Outcome Value :=
  if v.depth ≤ depthLimit then .ok (env.expand v) else .error .tooDeep

/-- A table with its references replaced, unless it is nested too deep. -/
def expandTable (env : Environment) (entries : Entries) : Outcome Entries :=
  if (Value.table entries).depth ≤ depthLimit then .ok (env.expandEntries entries)
  else .error .tooDeep

end Environment

end PatchReview
