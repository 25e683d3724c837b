import PatchReview.Command.Basic
import PatchReview.Files.Basic
import PatchReview.Journal.Line
import PatchReview.Settings.Basic
import PatchReview.Settings.Environment
import PatchReview.Text.ControlSequence

/-! Carrying out a command.

A command prints, writes into the error output and may change files; it ends well or with a
`Stop`. What it finds outside itself are its `Surroundings`. The output may refuse a text, which
then is not printed at all (`printable`); the error output takes any (`Streams.spelled`). -/
namespace PatchReview.Command

variable [Text.StandIns]

/-- What becomes of the texts that a command prints. -/
inductive Streams where
  /-- They stay texts. -/
  | texts
  /-- They are written as UTF-8. -/
  | utf8
  deriving DecidableEq, Repr

namespace Streams

/-- Why the output refuses a text, if it does. -/
def refusal? : Streams → String → Option Text.Utf8.EncodeError
  | texts, _ => none
  | utf8, text => Text.Utf8.encodeError? text.toList

/-- A character by its number if it is half of a surrogate pair, any other as it is. -/
def spelledHalf (c : Char) : List Char :=
  match Text.Surrogate.half? c with
  | some half => '\\' :: 'u' :: Text.hexDigits half 4
  | none => [c]

/-- A text as the error output takes it. -/
def spelled : Streams → String → String
  | texts, text => text
  | utf8, text => String.ofList (text.toList.flatMap spelledHalf)

end Streams

structure Surroundings where
  environment : Environment
  files : Files
  /-- The text on standard input. -/
  input : String
  /-- The time, as reports give it. -/
  reportTime : String
  /-- The time, as the journal gives it. -/
  journalTime : String
  /-- Whether the output goes to a terminal. -/
  toTerminal : Bool
  streams : Streams := .texts
  git : Git := .absent

/-- Why a command ends early or without success. -/
inductive Stop where
  | usage (e : UsageError)
  /-- The command has said why it does not succeed. -/
  | unsuccessful
  | failure (e : Failure)
  deriving DecidableEq, Repr

structure Progress where
  output : String
  errors : String
  files : Files

abbrev Run := ExceptT Stop (StateM Progress)

/-- A text as it is shown, without control sequences unless it is for a terminal. -/
def shown (s : Surroundings) (text : String) : String :=
  if s.toTerminal then text else String.ofList (Text.ControlSequence.without text.toList)

/-- A text as it is printed, if the output takes it. -/
def printable (s : Surroundings) (text : String) : Outcome String :=
  match s.streams.refusal? (shown s text) with
  | none => .ok (shown s text)
  | some e => .error (.notEncodable e)

/-- Something that has to be there for the command to go on. -/
def needed {α : Type} (a : Outcome α) : Run α :=
  match a with
  | .ok a => return a
  | .error e => throw (.failure e)

/-- Prints a text. -/
def print (s : Surroundings) (text : String) : Run Unit := do
  let line ← needed (printable s text)
  modify fun p => { p with output := p.output ++ line }

/-- Lines as they stand in the error output. -/
def complaint (s : Surroundings) (lines : List String) : String :=
  String.join (lines.map (s.streams.spelled · ++ "\n"))

/-- Writes lines into the error output. -/
def complain (s : Surroundings) (lines : List String) : Run Unit :=
  modify fun p => { p with errors := p.errors ++ complaint s lines }

/-- The line about an event, if it is serious enough for the settings. -/
def eventLine (s : Surroundings) (log : LoggingSettings) (e : Event) : Option String :=
  if log.level.rank ≤ e.level.rank then
    some (if log.json then e.jsonLine s.journalTime else e.line s.journalTime)
  else none

/-- Does some work, with its journal in the error output. -/
def logged {α : Type} (s : Surroundings) (log : LoggingSettings) (work : Logged α) :
    Run (Outcome α) := do
  let (result, journal) := work.result
  complain s (journal.filterMap (eventLine s log))
  return result

/-- Does some work for which the settings are to blame if they are wrong. -/
def blaming {α : Type} (s : Surroundings) (log : LoggingSettings) (part : SettingsPart)
    (work : Logged α) : Run α := do
  match ← logged s log work with
  | .ok a => return a
  | .error (.settings e) => throw (.usage (.settings part e))
  | .error e => throw (.failure e)

/-- Does some work on a diff; that there is none, or that the reviewer gives up, is said. -/
def reporting {α : Type} (s : Surroundings) (log : LoggingSettings) (work : Logged α) : Run α := do
  match ← logged s log work with
  | .ok a => return a
  | .error e =>
    match e with
    | .diffFile _ | .reviewer _ =>
      complain s [shown s ("Error: " ++ e.message)]
      throw .unsuccessful
    | e => throw (.failure e)

end PatchReview.Command
