import PatchReview.Command.Arguments
import PatchReview.Command.Listing

/-! What comes of a command line. -/
namespace PatchReview.Command

variable [Text.StandIns]

def versionText : String := "0.1.0"

/-- Carries out a command. -/
def run (s : Surroundings) : Command → Run Unit
  | .version => printLines s [versionText]
  | .help choices => printLines s ("Choices:" :: choices.map ("  " ++ ·))
  | .review o => reviewDiff s o
  | .chunks o => listChunks s o
  | .rules o => listRules s o
  | .settings o => listSettings s o
  | .start out force => writeStart s out force

/-- How a command line ends, and what has been printed and changed by then. -/
structure Result where
  stop : Option Stop
  progress : Progress

/-- What comes of a command. -/
def resultOf (s : Surroundings) (c : Command) : Result :=
  let (ended, progress) := StateT.run (ExceptT.run (run s c)) ⟨"", "", s.files⟩
  match ended with
  | .ok () => ⟨none, progress⟩
  | .error stop => ⟨some stop, progress⟩

/-- What comes of the arguments of a command line. -/
def resultOfArguments (s : Surroundings) (arguments : List String) : Result :=
  match ofArguments arguments with
  | .ok c => resultOf s c
  | .error e => ⟨some (.usage e), ⟨"", "", s.files⟩⟩

/-- The exit code that a command asks for; a failure that none expects has none of its own. -/
def Stop.exitCode : Stop → Option Nat
  | usage _ => some 2
  | unsuccessful => some 1
  | failure _ => none

def Result.exitCode (r : Result) : Option Nat := r.stop.elim (some 0) Stop.exitCode

/-- The code with which the program ends, which is 1 when a failure escapes. -/
def Result.status (r : Result) : Nat := r.exitCode.getD 1

/-- What is said of a stop when the command is over. -/
def Stop.lines : Stop → List String
  | usage e => ["Error: " ++ e.message]
  | unsuccessful => []
  | failure e => [e.message]

/-- All that stands in the error output at the end. -/
def Result.errors (s : Surroundings) (r : Result) : String :=
  r.progress.errors ++ complaint s (r.stop.elim [] Stop.lines)

end PatchReview.Command
