import PatchReview.Failure
import PatchReview.Json.Reader
import PatchReview.Text.Scan

/-! What a language model answers.

The findings are looked for in a JSON table: the whole reply, or else the first fenced block
of it, or else the stretch from its first opening brace to its last closing one if the word
for findings, in quotes, stands in between. A reply without such a table has no findings,
and what is not a table is no finding. -/
namespace PatchReview.Reply

variable [Text.StandIns]

open Text

/-- The text of a reply, which is nothing else. -/
def textOf : Value → Outcome String
  | .text s => .ok s
  | v => .error (.noText v.kindName)

/-- The value that a text writes, if it is JSON. An integer with too many digits is a failure,
and so are lists and tables nested too deep. -/
def valueOf? (s : List Char) : Outcome (Option Value) :=
  match Json.readChars s with
  | .ok v => .ok (some v)
  | .error .malformed => .ok none
  | .error (.numeral e) => .error (.numeral e)
  | .error (.tooDeep table) => .error (.jsonTooDeep table)

/-- The line end and the marks that close a fenced block. -/
def closingFence : List Char := ['\n', '\x60', '\x60', '\x60']

/-- The text up to the closing of a fenced block. -/
def untilFence : List Char → Option (List Char)
  | [] => none
  | c :: s =>
    if startsWith closingFence (c :: s) then some [] else (untilFence s).map (c :: ·)

/-- Behind the opening of a fenced block. -/
def afterFence? (s : List Char) : Option (List Char) := do
  let s ← after? ['\x60', '\x60', '\x60'] s
  after? "json\n".toList s <|> after? ['\n'] s

/-- The content of a fenced block that starts here; it is not empty. -/
def fencedHere? (s : List Char) : Option (List Char) := do
  match ← afterFence? s with
  | [] => none
  | c :: rest => (untilFence rest).map (c :: ·)

/-- The content of the first fenced block. -/
def fenced? (s : List Char) : Option (List Char) := findSuffix? fencedHere? s

/-- The text up to and with the last closing brace. -/
def toLastBrace (s : List Char) : List Char := (s.reverse.dropWhile (· != '\x7d')).reverse

/-- The widest stretch in braces that holds the word for findings. -/
def stretch? (s : List Char) : Option (List Char) :=
  let stretch := toLastBrace (s.dropWhile (· != '\x7b'))
  if occursIn "\"findings\"".toList stretch then some stretch else none

/-- A value, if it is a table. -/
def table? : Option Value → Option Entries
  | some (.table entries) => some entries
  | _ => none

/-- The table in one of some stretches, the first that holds one. -/
def firstTable? : List (Option (List Char)) → Outcome (Option Entries)
  | [] => .ok none
  | none :: rest => firstTable? rest
  | some s :: rest => do
    match table? (← valueOf? s) with
    | some entries => return some entries
    | none => firstTable? rest

/-- The tables among the items of a list. -/
def tablesIn : Option Value → List Entries
  | some (.list items) => items.filterMap fun v => table? (some v)
  | _ => []

/-- The findings in a reply, as tables. -/
def findings (reply : String) : Outcome (List Entries) := do
  let s := reply.toList
  match ← firstTable? [some s, fenced? s, stretch? s] with
  | some entries => return tablesIn (entries.get? "findings")
  | none => return []

end PatchReview.Reply
