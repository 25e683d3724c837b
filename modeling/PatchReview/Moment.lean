/-! Dates and times as a settings file can hold them.

A moment is a date, a time of day, or both, the last with or without an offset from
universal time. `text` is how a moment reads, `literal` how it is listed inside a list or a
table. -/
namespace PatchReview

/-- A day of the calendar. -/
structure Date where
  year : Nat
  month : Nat
  day : Nat
  deriving DecidableEq, Repr

/-- A time of day. -/
structure Clock where
  hour : Nat
  minute : Nat
  second : Nat
  microsecond : Nat
  deriving DecidableEq, Repr

inductive Moment where
  | date (d : Date)
  | time (t : Clock)
  /-- A date and time; the offset is in minutes east of universal time. -/
  | dateTime (d : Date) (t : Clock) (offset : Option Int)
  deriving DecidableEq, Repr

/-- Leap years of the Gregorian calendar. -/
def isLeapYear (year : Nat) : Bool := year % 4 == 0 && (year % 100 != 0 || year % 400 == 0)

def daysInMonth (year month : Nat) : Nat :=
  if month = 2 then if isLeapYear year then 29 else 28
  else if month ∈ [4, 6, 9, 11] then 30
  else 31

/-- A day that the calendar has, from the year 1 on. -/
def Date.isValid (d : Date) : Bool :=
  1 ≤ d.year && 1 ≤ d.month && d.month ≤ 12 && 1 ≤ d.day && d.day ≤ daysInMonth d.year d.month

/-- `n` with at least `width` digits. -/
def zeroPadded (width n : Nat) : String :=
  let digits := Nat.toDigits 10 n
  String.ofList (List.replicate (width - digits.length) '0' ++ digits)

def Date.text (d : Date) : String :=
  zeroPadded 4 d.year ++ "-" ++ zeroPadded 2 d.month ++ "-" ++ zeroPadded 2 d.day

/-- Hours, minutes and seconds; microseconds only if there are any. -/
def Clock.text (t : Clock) : String :=
  zeroPadded 2 t.hour ++ ":" ++ zeroPadded 2 t.minute ++ ":" ++ zeroPadded 2 t.second ++
    (if t.microsecond = 0 then "" else "." ++ zeroPadded 6 t.microsecond)

/-- An offset as sign, hours and minutes. -/
def offsetText (minutes : Int) : String :=
  let n := minutes.natAbs
  (if minutes < 0 then "-" else "+") ++ zeroPadded 2 (n / 60) ++ ":" ++ zeroPadded 2 (n % 60)

namespace Moment

def text : Moment → String
  | date d => d.text
  | time t => t.text
  | dateTime d t offset =>
    d.text ++ " " ++ t.text ++ (match offset with | none => "" | some m => offsetText m)

/-- The parts of a time from hour on; seconds and microseconds only as far as they are needed. -/
def clockParts (t : Clock) : List Nat :=
  if t.microsecond ≠ 0 then [t.hour, t.minute, t.second, t.microsecond]
  else if t.second ≠ 0 then [t.hour, t.minute, t.second]
  else [t.hour, t.minute]

def commaList (parts : List Nat) : String := ", ".intercalate (parts.map toString)

/-- A span of minutes in whole days and the seconds left over. -/
def spanLiteral (minutes : Int) : String :=
  let days := minutes.fdiv 1440
  let seconds := (minutes.fmod 1440 * 60).toNat
  let parts :=
    (if days = 0 then [] else [s!"days={days}"]) ++
      (if seconds = 0 then [] else [s!"seconds={seconds}"])
  "datetime.timedelta(" ++ (if parts.isEmpty then "0" else ", ".intercalate parts) ++ ")"

def offsetLiteral (minutes : Int) : String :=
  if minutes = 0 then "datetime.timezone.utc"
  else "datetime.timezone(" ++ spanLiteral minutes ++ ")"

/-- How a moment is listed inside a list or a table. -/
def literal : Moment → String
  | date d => s!"datetime.date({commaList [d.year, d.month, d.day]})"
  | time t => s!"datetime.time({commaList (clockParts t)})"
  | dateTime d t offset =>
    "datetime.datetime(" ++ commaList ([d.year, d.month, d.day] ++ clockParts t) ++
      (match offset with | none => "" | some m => ", tzinfo=" ++ offsetLiteral m) ++ ")"

/-- The word for the kind of a moment. -/
def kindName : Moment → String
  | date _ => "date"
  | time _ => "time"
  | dateTime .. => "datetime"

end Moment

end PatchReview
