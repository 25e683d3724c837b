import PatchReview.Failure
import PatchReview.Value

/-! What happened on the way.

An event has a level, a name and named fields. Work that may fail writes its events into a
journal, and those written before a failure stay there. -/
namespace PatchReview

variable [Text.StandIns]

/-- How serious an event is. -/
inductive Level where
  | debug
  | info
  | warning
  | error
  deriving DecidableEq, Repr

def Level.name : Level → String
  | debug => "debug"
  | info => "info"
  | warning => "warning"
  | error => "error"

/-- Levels in increasing order. -/
def Level.rank : Level → Nat
  | debug => 0
  | info => 1
  | warning => 2
  | error => 3

/-- The level of a name in lower case. -/
def Level.named? (name : String) : Option Level :=
  [debug, info, warning, error].find? (·.name == name)

/-- Why a file with rules, or a rule in it, is passed over. -/
inductive SkipReason where
  | unreadable (e : FileError)
  | unparseable
  | noRules
  | badRule (e : SettingsError)
  deriving DecidableEq, Repr

def SkipReason.message : SkipReason → String
  | unreadable e => e.message
  | unparseable => "unparseable rules file"
  | noRules => "no rules list found"
  | badRule e => e.message

inductive Event where
  /-- A file and all behind it are left out. -/
  | budgetExhausted (file : String) (used incoming : Nat)
  | chunkCompressed (file : String) (tokens : Nat)
  | chunksBuilt (count tokens : Nat)
  | reviewerFailed (reviewer message : String)
  | reviewCompleted (chunks candidates findings : Nat)
  | guidelinesUnreadable (path : String) (e : FileError)
  | rulesSkipped (path : String) (reason : SkipReason)
  deriving DecidableEq, Repr

namespace Event

def level : Event → Level
  | budgetExhausted .. | reviewCompleted .. => .info
  | chunkCompressed .. | chunksBuilt .. => .debug
  | reviewerFailed .. => .error
  | guidelinesUnreadable .. | rulesSkipped .. => .warning

def name : Event → String
  | budgetExhausted .. => "chunks.budget_exhausted"
  | chunkCompressed .. => "chunks.compressed"
  | chunksBuilt .. => "chunks.built"
  | reviewerFailed .. => "pipeline.provider_failed"
  | reviewCompleted .. => "pipeline.completed"
  | guidelinesUnreadable .. => "config.guidelines_unreadable"
  | rulesSkipped .. => "rules.include_skipped"

/-- A count as a value. -/
def countValue (n : Nat) : Value := .int n

def fields : Event → Entries
  | budgetExhausted file used incoming =>
    [("file", .text file), ("used", countValue used), ("incoming", countValue incoming)]
  | chunkCompressed file tokens => [("file", .text file), ("tokens", countValue tokens)]
  | chunksBuilt count tokens => [("count", countValue count), ("used_tokens", countValue tokens)]
  | reviewerFailed reviewer message => [("provider", .text reviewer), ("error", .text message)]
  | reviewCompleted chunks candidates findings =>
    [("chunks", countValue chunks), ("candidates", countValue candidates),
      ("findings", countValue findings)]
  | guidelinesUnreadable path e => [("path", .text path), ("reason", .text e.message)]
  | rulesSkipped path reason => [("path", .text path), ("reason", .text reason.message)]

end Event

/-- Events in the order in which they happened. -/
abbrev Journal := List Event

/-- Work that may fail and keeps a journal. -/
abbrev Logged := ExceptT Failure (StateM Journal)

/-- Writes down an event. -/
def record (e : Event) : Logged Unit := modify (· ++ [e])

/-- The result of some work, and its journal. -/
def Logged.result {α : Type} (work : Logged α) : Outcome α × Journal :=
  StateT.run (ExceptT.run work) []

end PatchReview
