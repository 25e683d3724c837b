import PatchReview.Moment

/-! Moments by the seconds since the first of January 1970, in universal time. -/
namespace PatchReview

/-- The day that comes `days` days after the first of January 1970. Years start with March, so
that the leap day is the last of its year, and four hundred of them have 146097 days. -/
def Date.ofEpochDays (days : Nat) : Date :=
  let n := days + 719468
  let era := n / 146097
  let day := n % 146097
  let year := (day - day / 1460 + day / 36524 - day / 146096) / 365
  let dayOfYear := day - (365 * year + year / 4 - year / 100)
  let month := (5 * dayOfYear + 2) / 153
  let calendarMonth := if month < 10 then month + 3 else month - 9
  { year := year + 400 * era + (if calendarMonth ≤ 2 then 1 else 0)
    month := calendarMonth
    day := dayOfYear - (153 * month + 2) / 5 + 1 }

/-- The time of day so many seconds after midnight. -/
def Clock.ofSeconds (seconds microseconds : Nat) : Clock :=
  ⟨seconds / 3600, seconds / 60 % 60, seconds % 60, microseconds⟩

/-- The time as reports give it. -/
def reportTime (seconds : Nat) : String :=
  (Date.ofEpochDays (seconds / 86400)).text ++ " " ++
    (Clock.ofSeconds (seconds % 86400) 0).text ++ " UTC"

/-- The time as the journal gives it. -/
def journalTime (seconds microseconds : Nat) : String :=
  (Date.ofEpochDays (seconds / 86400)).text ++ "T" ++
    (Clock.ofSeconds (seconds % 86400) microseconds).text ++ "Z"

end PatchReview
