import PatchReview.Text.Numeral
import PatchReview.Text.StandIn
import PatchReview.Value

/-! Reading JSON.

Besides the standard, the names `NaN`, `Infinity` and `-Infinity` are numbers. A key that
comes twice keeps its first place and its last value. An integer with too many digits is a
fault of its own (`ReadError.numeral`), and so are lists and tables nested too deep
(`ReadError.tooDeep`); both are told apart from a text that is not JSON.

Reading goes down by a bound on the nesting and length of what is left, which the length of
the text provides; each call of a reader takes a character off the text. -/
namespace PatchReview.Json

inductive ReadError where
  /-- The text is not JSON. -/
  | malformed
  /-- An integer of the text cannot be taken. -/
  | numeral (e : Text.NumeralError)
  /-- A list or a table of the text is nested too deep. -/
  | tooDeep (table : Bool)
  deriving DecidableEq, Repr

/-- How deep lists and tables may be nested. -/
def depthLimit : Nat := 980

/-- What a reader took, and the rest of the text. -/
abbrev Reading (α : Type) := Except ReadError (α × List Char)

/-- Without the space, tabs and line ends in front. -/
def skipSpace (s : List Char) : List Char :=
  s.dropWhile fun c => c == ' ' || c == '\t' || c == '\n' || c == '\r'

/-- The value of four hexadecimal digits. -/
def fourHex? (a b c d : Char) : Option Nat :=
  if [a, b, c, d].all Text.isHexDigit then some (Text.hexRunValue [a, b, c, d]) else none

/-- What the letter after a backslash stands for. -/
def escaped? : Char → Option Char
  | '"' => some '"'
  | '\\' => some '\\'
  | '/' => some '/'
  | 'b' => some (Char.ofNat 8)
  | 'f' => some (Char.ofNat 12)
  | 'n' => some '\n'
  | 'r' => some '\r'
  | 't' => some '\t'
  | _ => none

/-- The code units of a text up to its closing quote, and the rest behind the quote. -/
def readUnits : List Char → Reading (List Nat)
  | [] => .error .malformed
  | '"' :: s => .ok ([], s)
  | '\\' :: 'u' :: a :: b :: c :: d :: s =>
    match fourHex? a b c d with
    | none => .error .malformed
    | some n => (readUnits s).map fun (units, rest) => (n :: units, rest)
  | '\\' :: e :: s =>
    match escaped? e with
    | none => .error .malformed
    | some c => (readUnits s).map fun (units, rest) => (c.toNat :: units, rest)
  | c :: s =>
    if c.toNat < 32 || c == '\\' then .error .malformed
    else (readUnits s).map fun (units, rest) => (c.toNat :: units, rest)

section
variable [Text.StandIns]

/-- Two halves of a surrogate pair in the right order make one character; a half that stands
alone is kept as it is. -/
def joinUnits : List Nat → List Char
  | [] => []
  | high :: low :: rest =>
    match Text.Surrogate.joined? high low with
    | some n => Char.ofNat n :: joinUnits rest
    | none => Text.Surrogate.ofCode high :: joinUnits (low :: rest)
  | [unit] => [Text.Surrogate.ofCode unit]

/-- A text, from behind its opening quote. -/
def readText (s : List Char) : Reading String :=
  (readUnits s).map fun (units, rest) => (String.ofList (joinUnits units), rest)

end

/-- The digits in front. -/
def takeDigits (s : List Char) : List Char × List Char := s.span Char.isDigit

/-- The digits behind a point, if there are any. -/
def takeFraction (s : List Char) : List Char × List Char :=
  match s with
  | '.' :: rest =>
    match takeDigits rest with
    | ([], _) => ([], s)
    | taken => taken
  | _ => ([], s)

/-- The exponent behind its letter, if there is one. -/
def takeExponent (s : List Char) : Option Int × List Char :=
  match s with
  | e :: rest =>
    if e == 'e' || e == 'E' then
      let (negative, rest) := Text.takeSign rest
      match takeDigits rest with
      | ([], _) => (none, s)
      | (digits, rest) =>
        let n : Int := Text.digitsValue digits
        (some (if negative then -n else n), rest)
    else (none, s)
  | [] => (none, s)

/-- The digits in front of a number: a lone zero, or digits that start with none. -/
def takeWhole : List Char → List Char × List Char
  | '0' :: s => (['0'], s)
  | s => takeDigits s

/-- A number, from behind its sign. -/
def readNumber (negative : Bool) (s : List Char) : Reading Value :=
  match takeWhole s with
  | ([], _) => .error .malformed
  | (whole, s) =>
    let (fraction, s) := takeFraction s
    let (exponent, s) := takeExponent s
    if fraction.isEmpty && exponent.isNone then
      match Text.readNatural whole with
      | .error e => .error (.numeral e)
      | .ok n => .ok (.int (if negative then -(n : Int) else n), s)
    else
      let digits := Text.digitsValue (whole ++ fraction)
      .ok (.float (.ofDecimal negative digits (exponent.getD 0 - fraction.length)), s)

/-- The rest behind a name. -/
def afterName? (name : String) (s : List Char) : Option (List Char) :=
  if name.toList.isPrefixOf s then some (s.drop name.length) else none

/-- The values that are written by name. -/
def names : List (String × Value) :=
  [("null", .null), ("true", .bool true), ("false", .bool false), ("NaN", .float .nan),
    ("Infinity", .float (.infinite false)), ("-Infinity", .float (.infinite true))]

/-- A number or a name. -/
def readScalar (s : List Char) : Reading Value :=
  match names.findSome? fun (name, v) => (afterName? name s).map (v, ·) with
  | some reading => .ok reading
  | none =>
    match s with
    | '-' :: s => readNumber true s
    | s => readNumber false s

variable [Text.StandIns]

mutual

/-- A value, from its first character, which may hold lists and tables to a depth. -/
def readValue : Nat → Nat → List Char → Except ReadError (Value × List Char)
  | 0, _, _ => .error .malformed
  | bound + 1, depth, s =>
    match s with
    | '"' :: s => (readText s).map fun (t, rest) => (.text t, rest)
    | '[' :: s =>
      match depth with
      | 0 => .error (.tooDeep false)
      | depth + 1 =>
        match skipSpace s with
        | ']' :: rest => .ok (.list [], rest)
        | s => (readItems bound depth s).map fun (items, rest) => (.list items, rest)
    | '\x7b' :: s =>
      match depth with
      | 0 => .error (.tooDeep true)
      | depth + 1 =>
        match skipSpace s with
        | '\x7d' :: rest => .ok (.table [], rest)
        | s =>
          (readEntries bound depth s).map fun (entries, rest) =>
            (.table (Keyed.ofList entries), rest)
    | s => readScalar s

/-- The items of a list, from the first one to behind the closing bracket. -/
def readItems : Nat → Nat → List Char → Except ReadError (List Value × List Char)
  | 0, _, _ => .error .malformed
  | bound + 1, depth, s => do
    let (v, s) ← readValue bound depth s
    match skipSpace s with
    | ']' :: rest => return ([v], rest)
    | ',' :: s =>
      let (items, rest) ← readItems bound depth (skipSpace s)
      return (v :: items, rest)
    | _ => .error .malformed

/-- The entries of a table, from the first key to behind the closing brace. -/
def readEntries : Nat → Nat → List Char → Except ReadError (List (String × Value) × List Char)
  | 0, _, _ => .error .malformed
  | bound + 1, depth, s => do
    match s with
    | '"' :: s =>
      let (key, s) ← readText s
      match skipSpace s with
      | ':' :: s =>
        let (v, s) ← readValue bound depth (skipSpace s)
        match skipSpace s with
        | '\x7d' :: rest => return ([(key, v)], rest)
        | ',' :: s =>
          let (entries, rest) ← readEntries bound depth (skipSpace s)
          return ((key, v) :: entries, rest)
        | _ => .error .malformed
      | _ => .error .malformed
    | _ => .error .malformed

end

/-- The value that a whole text writes. -/
def readChars (s : List Char) : Except ReadError Value := do
  let (v, rest) ← readValue (2 * s.length + 2) depthLimit (skipSpace s)
  if (skipSpace rest).isEmpty then return v else .error .malformed

/-- The value that a whole text writes. -/
def read (s : String) : Except ReadError Value := readChars s.toList

end PatchReview.Json
