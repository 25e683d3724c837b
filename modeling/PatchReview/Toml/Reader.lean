import PatchReview.Toml.Document
import PatchReview.Toml.Quotation
import PatchReview.Toml.Scalar

/-! Reading TOML documents.

A document is read statement by statement: headers, and keys with their values. Values nest
in arrays and inline tables; each step into one takes a character, so the length of the text
bounds the steps. An array takes two of the levels there are for nesting, an inline table
three (`levelLimit`). -/
namespace PatchReview.Toml

open Text

/-- Characters of keys without quotes. -/
def isBareKey (c : Char) : Bool := c.isAlphanum || c == '-' || c == '_'

/-- One part of a key. -/
def readKeyPart (s : List Char) : Reading String :=
  match lineText? s with
  | some r => r.map fun (text, rest) => (String.ofList text, rest)
  | none =>
    match s.span isBareKey with
    | ([], _) => .error .key
    | (part, rest) => .ok (String.ofList part, rest)

/-- A key with its parts between points, and the spaces behind it. -/
def readKey : Nat → List Char → Except Fault (Path × List Char)
  | 0, _ => .error .key
  | bound + 1, s => do
    let (part, s) ← readKeyPart s
    match skipSpaces s with
    | '.' :: s =>
      let (path, s) ← readKey bound (skipSpaces s)
      return (part :: path, s)
    | s => return ([part], s)

/-- Behind a comment, if there is one. -/
def skipComment (s : List Char) : Except Fault (List Char) :=
  match s with
  | '#' :: s =>
    let (comment, rest) := s.span (· != '\n')
    if comment.any isIllegal then .error .character else .ok rest
  | s => .ok s

/-- Behind spaces, line breaks and comments. -/
def skipBlanks : Nat → List Char → Except Fault (List Char)
  | 0, s => .ok s
  | bound + 1, s =>
    match s.dropWhile fun c => isSpace c || c == '\n' with
    | '#' :: s => do skipBlanks bound (← skipComment ('#' :: s))
    | s => .ok s

/-- The table of an inline table, as far as it has been read, and what in it stays as it is. -/
structure InlineTable where
  entries : Entries
  frozen : List Path

/-- Gives a key of an inline table its value. -/
def InlineTable.assign (t : InlineTable) (key : Path) (v : Value) : Except Fault InlineTable :=
  if isFrozen t.frozen key then .error .redefinition
  else
    match changeAt false (addKey (key.getLast?.getD "") v) key.dropLast t.entries with
    | none => .error .redefinition
    | some entries =>
      .ok ⟨entries, t.frozen ++ (match v with | .table _ | .list _ => [key] | _ => [])⟩

/-- A value that holds no others. -/
def readScalar (s : List Char) : Reading Value :=
  match quotedText? s with
  | some r => r.map fun (text, rest) => (.text (String.ofList text), rest)
  | none =>
    match after? "true".toList s, after? "false".toList s with
    | some s, _ => .ok (.bool true, s)
    | none, some s => .ok (.bool false, s)
    | none, none => ((moment? s <|> number? s)).getD (.error .value)

/-- How many levels there are for nesting. -/
def levelLimit : Nat := 980

mutual

/-- A value for which there are so many levels left. -/
def readValue : Nat → Nat → List Char → Except Fault (Value × List Char)
  | 0, _, _ => .error .value
  | bound + 1, levels, s =>
    match s with
    | '[' :: s => do
      if levels < 2 then throw .tooDeep
      let s ← skipBlanks s.length s
      let (items, s) ← readItems bound (levels - 2) s
      return (.list items, s)
    | '\x7b' :: s => do
      if levels < 3 then throw .tooDeep
      match skipSpaces s with
      | '\x7d' :: s => return (.table [], s)
      | s =>
        let (entries, s) ← readPairs bound (levels - 3) ⟨[], []⟩ s
        return (.table entries, s)
    | s => readScalar s

/-- The items of an array up to its closing bracket. -/
def readItems : Nat → Nat → List Char → Except Fault (List Value × List Char)
  | 0, _, _ => .error .unclosed
  | bound + 1, levels, s =>
    match s with
    | ']' :: s => .ok ([], s)
    | s => do
      let (v, s) ← readValue bound levels s
      match ← skipBlanks s.length s with
      | ']' :: s => return ([v], s)
      | ',' :: s =>
        let (items, s) ← readItems bound levels (← skipBlanks s.length s)
        return (v :: items, s)
      | _ => throw .unclosed

/-- The pairs of an inline table up to its closing brace, behind those read so far. -/
def readPairs : Nat → Nat → InlineTable → List Char → Except Fault (Entries × List Char)
  | 0, _, _, _ => .error .unclosed
  | bound + 1, levels, t, s => do
    let (key, s) ← readKey s.length s
    match s with
    | '=' :: s =>
      let (v, s) ← readValue bound levels (skipSpaces s)
      let t ← t.assign key v
      match skipSpaces s with
      | '\x7d' :: s => return (t.entries, s)
      | ',' :: s => readPairs bound levels t (skipSpaces s)
      | _ => throw .unclosed
    | _ => throw .key

end

/-- Where a document stands behind a statement, and the rest of the text. -/
abbrev Step := Except Fault (Document × List Char)

/-- A header, from its first bracket on. -/
def readHeader (d : Document) (s : List Char) : Step := do
  let d := d.settle
  match s with
  | '[' :: '[' :: s =>
    let (path, s) ← readKey s.length (skipSpaces s)
    let d ← d.openItem path
    match s with
    | ']' :: ']' :: s => return (d, s)
    | _ => throw .unclosed
  | s =>
    let (path, s) ← readKey s.length (skipSpaces (s.drop 1))
    let d ← d.openTable path
    match s with
    | ']' :: s => return (d, s)
    | _ => throw .unclosed

/-- A key with its value. -/
def readAssignment (d : Document) (s : List Char) : Step := do
  let (key, s) ← readKey s.length s
  match s with
  | '=' :: s =>
    let s := skipSpaces s
    let (v, s) ← readValue (s.length + 1) levelLimit s
    return (← d.assign key v, s)
  | _ => throw .key

/-- A statement, a comment, or nothing. -/
def readStatement (d : Document) (s : List Char) : Step :=
  match s with
  | '[' :: _ => readHeader d s
  | '#' :: _ | '\n' :: _ => .ok (d, s)
  | c :: _ => if isBareKey c || c == '"' || c == '\'' then readAssignment d s else .error .statement
  | [] => .ok (d, s)

/-- The statements up to the end of the text. -/
def readStatements : Nat → Document → List Char → Except Fault Document
  | 0, d, _ => .ok d
  | bound + 1, d, s => do
    let (d, s) ← readStatement d (skipSpaces s)
    match ← skipComment (skipSpaces s) with
    | [] => return d
    | '\n' :: s => readStatements bound d s
    | _ => throw .lineEnd

/-- A text in which a carriage return before a line feed is dropped. -/
def dropCarriageReturns : List Char → List Char
  | '\r' :: '\n' :: s => '\n' :: dropCarriageReturns s
  | c :: s => c :: dropCarriageReturns s
  | [] => []

/-- The table that a document writes. -/
def read (text : String) : Except Fault Entries :=
  let s := dropCarriageReturns text.toList
  (readStatements (s.length + 1) .empty s).map (·.entries)

end PatchReview.Toml
