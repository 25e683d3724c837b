import PatchReview.Text.Hex
import PatchReview.Text.Scan
import PatchReview.Toml.Fault
import PatchReview.Value

/-! Dates, times and numbers in TOML.

A date may be followed by a time of day and that by an offset; what does not have the shape
of one is left to what comes next. A date that the calendar does not have is a fault. Digits
of a number may be separated by single underscores. -/
namespace PatchReview.Toml

open Text

/-- A number of exactly `n` digits. -/
def fixedNumber? (n : Nat) (s : List Char) : Option (Nat × List Char) :=
  let digits := s.take n
  if digits.length = n && digits.all Char.isDigit then some (digitsValue digits, s.drop n) else none

/-- A number of two digits between two bounds. -/
def twoDigits? (low high : Nat) (s : List Char) : Option (Nat × List Char) := do
  let (n, s) ← fixedNumber? 2 s
  if low ≤ n ∧ n ≤ high then some (n, s) else none

/-- Millionths behind a point; further digits are dropped. -/
def microseconds (s : List Char) : Nat × List Char :=
  match s with
  | '.' :: rest =>
    let digits := rest.takeWhile Char.isDigit
    if digits.isEmpty then (0, s)
    else
      let six := (digits ++ List.replicate 6 '0').take 6
      (digitsValue six, rest.drop digits.length)
  | _ => (0, s)

/-- A time of day. -/
def clock? (s : List Char) : Option (Clock × List Char) := do
  let (hour, s) ← twoDigits? 0 23 s
  let (minute, s) ← twoDigits? 0 59 (← after? [':'] s)
  let (second, s) ← twoDigits? 0 59 (← after? [':'] s)
  let (micro, s) := microseconds s
  return (⟨hour, minute, second, micro⟩, s)

/-- An offset from universal time, in minutes. -/
def offset? (s : List Char) : Option (Int × List Char) :=
  match s with
  | 'Z' :: s | 'z' :: s => some (0, s)
  | sign :: s => do
    if sign != '+' && sign != '-' then none
    let (hours, s) ← twoDigits? 0 23 s
    let (minutes, s) ← twoDigits? 0 59 (← after? [':'] s)
    let n : Int := (60 * hours + minutes : Nat)
    return (if sign == '-' then -n else n, s)
  | [] => none

def date? (s : List Char) : Option (Date × List Char) := do
  let (year, s) ← fixedNumber? 4 s
  let (month, s) ← twoDigits? 1 12 (← after? ['-'] s)
  let (day, s) ← twoDigits? 1 31 (← after? ['-'] s)
  return (⟨year, month, day⟩, s)

/-- A time of day behind the mark that separates it from a date. -/
def clockOfDate? (s : List Char) : Option (Clock × List Char) :=
  match s with
  | 'T' :: s | 't' :: s | ' ' :: s => clock? s
  | _ => none

/-- A moment that starts with a date, or a time of day alone. -/
def moment? (s : List Char) : Option (Reading Value) :=
  match date? s with
  | some (d, s) =>
    if !d.isValid then some (.error .date)
    else
      match clockOfDate? s with
      | none => some (.ok (.moment (.date d), s))
      | some (t, s) =>
        match offset? s with
        | none => some (.ok (.moment (.dateTime d t none), s))
        | some (offset, s) => some (.ok (.moment (.dateTime d t (some offset)), s))
  | none => (clock? s).map fun (t, s) => .ok (.moment (.time t), s)

/-- Digits with single underscores between them; they start with a digit. -/
def groupedDigits (isDigit : Char → Bool) : List Char → List Char × List Char
  | c :: s =>
    if isDigit c then
      match s with
      | '_' :: d :: rest =>
        if isDigit d then
          let (digits, rest) := groupedDigits isDigit (d :: rest)
          (c :: digits, rest)
        else ([c], s)
      | s =>
        let (digits, rest) := groupedDigits isDigit s
        (c :: digits, rest)
    else ([], c :: s)
  | [] => ([], [])

/-- A number to a base that is a power of two, behind its mark. -/
def basedNumber? (s : List Char) : Option (Nat × List Char) :=
  let read (base : Nat) (isDigit : Char → Bool) (s : List Char) : Option (Nat × List Char) :=
    match groupedDigits isDigit s with
    | ([], _) => none
    | (digits, rest) => some (digits.foldl (fun n c => base * n + (hexValue? c).getD 0) 0, rest)
  match s with
  | '0' :: 'x' :: s => read 16 isHexDigit s
  | '0' :: 'o' :: s => read 8 (fun c => '0' ≤ c && c ≤ '7') s
  | '0' :: 'b' :: s => read 2 (fun c => c == '0' || c == '1') s
  | _ => none

/-- The digits before the point: a lone zero, or digits that start with none. -/
def wholeDigits (s : List Char) : List Char × List Char :=
  match s with
  | '0' :: s => (['0'], s)
  | s => groupedDigits Char.isDigit s

/-- The digits behind a point, if there are any. -/
def fractionDigits (s : List Char) : List Char × List Char :=
  match s with
  | '.' :: rest =>
    match groupedDigits Char.isDigit rest with
    | ([], _) => ([], s)
    | taken => taken
  | _ => ([], s)

/-- The exponent behind its letter, if there is one. -/
def exponent? (s : List Char) : Option (Int × List Char) :=
  match s with
  | e :: rest => do
    if e != 'e' && e != 'E' then none
    let (negative, rest) := takeSign rest
    match groupedDigits Char.isDigit rest with
    | ([], _) => none
    | (digits, rest) =>
      let n : Int := digitsValue digits
      return (if negative then -n else n, rest)
  | [] => none

/-- A number in decimal. -/
def decimal? (s : List Char) : Option (Reading Value) :=
  let (negative, s) := takeSign s
  match wholeDigits s with
  | ([], _) => none
  | (whole, s) =>
    let (fraction, s) := fractionDigits s
    match fraction.isEmpty, exponent? s with
    | true, none =>
      match readNatural whole with
      | .error e => some (.error (.numeral e))
      | .ok n => some (.ok (.int (if negative then -(n : Int) else n), s))
    | _, exponent =>
      let (e, s) := exponent.getD (0, s)
      let digits := digitsValue (whole ++ fraction)
      some (.ok (.float (.ofDecimal negative digits (e - fraction.length)), s))

/-- The numbers that are written by name, with or without a sign. -/
def namedNumber? (s : List Char) : Option (Reading Value) :=
  let (negative, s) := takeSign s
  match after? "inf".toList s, after? "nan".toList s with
  | some s, _ => some (.ok (.float (.infinite negative), s))
  | none, some s => some (.ok (.float .nan, s))
  | none, none => none

/-- A number. -/
def number? (s : List Char) : Option (Reading Value) :=
  match basedNumber? s with
  | some (n, s) => some (.ok (.int n, s))
  | none => decimal? s <|> namedNumber? s

end PatchReview.Toml
