import PatchReview.Command.Run
import PatchReview.Review
import PatchReview.Scope

/-! Where a command finds its diff.

A diff is in a file that is named, on standard input, or what git makes of the repository. What is
not in a file is written into a temporary file first and read out of that. -/
namespace PatchReview.Command

variable [Text.StandIns]

/-- A diff that is to be read. -/
inductive Source where
  | file (path : Path)
  /-- A text that goes through a temporary file. -/
  | spooled (content : String)
  deriving DecidableEq, Repr

/-- The text on standard input, as a command reads it. -/
def inputText (s : Surroundings) : String :=
  String.ofList (Text.universalNewlines s.input.toList)

/-- The diff that is asked for, or why there can be none. -/
def sourceOf (s : Surroundings) (repository : Path) (o : SourceOptions) : Except Stop Source :=
  if o.diffFile.isSome && o.fromInput then .error (.usage .twoSources)
  else if o.base.isNone != o.head.isNone then .error (.usage .halfRange)
  else
    match o.diffFile, o.fromInput with
    | some path, _ => .ok (.file path)
    | none, true => .ok (.spooled (inputText s))
    | none, false =>
      match s.git.diff repository o.base o.head with
      | .ok (.ok diff) => .ok (.spooled diff)
      | .ok (.error e) => .error (.usage (.noDiff e))
      | .error e => .error (.failure e)

/-- A text as it comes out of a temporary file. -/
def spool (content : String) : Outcome String := do
  let (scope, written) := (Scope.opened Scope.defaultBeginning).write .numbered content
    Scope.defaultEnding
  let name ← written
  match scope.read? name with
  | some diff => return diff
  | none => throw (.diffFile (.notFound name))

/-- The diff of a source. -/
def Source.read (files : Files) : Source → Outcome String
  | file path => Review.readDiff files path
  | spooled content => spool content

end PatchReview.Command
