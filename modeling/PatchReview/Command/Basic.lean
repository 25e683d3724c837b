import PatchReview.Files.Path
import PatchReview.Git
import PatchReview.Policy.Selection
import PatchReview.Report.Format
import PatchReview.Text.ControlSequence
import PatchReview.Text.Likeness
import PatchReview.Text.Order

/-! What can be asked for on the command line.

A `Command` is what the arguments ask for, with the options as they were given. A
`UsageError` is why a command is not carried out although nothing went wrong while it was. -/
namespace PatchReview

variable [Text.StandIns]

/-- Where a diff is to be taken from. -/
structure SourceOptions where
  diffFile : Option Path
  fromInput : Bool
  /-- The revisions between which the diff lies. -/
  base : Option String
  head : Option String
  deriving DecidableEq, Repr

structure ReviewOptions where
  source : SourceOptions
  repository : Path
  settingsFile : Option Path
  reviewer : Option String
  format : Option String
  /-- The severity from which on findings make the command fail. -/
  failOn : Option String
  colour : Bool
  logLevel : Option String
  logJson : Bool
  deriving DecidableEq, Repr

structure ChunkOptions where
  source : SourceOptions
  repository : Path
  settingsFile : Option Path
  reviewer : Option String
  deriving DecidableEq, Repr

structure ListingOptions where
  repository : Path
  settingsFile : Option Path
  format : String
  deriving DecidableEq, Repr

inductive Command where
  | version
  /-- Lists what can be asked for. -/
  | help (choices : List String)
  | review (o : ReviewOptions)
  | chunks (o : ChunkOptions)
  | rules (o : ListingOptions)
  | settings (o : ListingOptions)
  /-- Writes settings to start from. -/
  | start (out : Path) (force : Bool)
  deriving DecidableEq, Repr

/-- The format of a listing. -/
inductive ListingFormat where
  | human
  | json
  deriving DecidableEq, Repr

namespace ListingFormat

def name : ListingFormat → String
  | human => "human"
  | json => "json"

def all : List ListingFormat := [human, json]

def named? (name : String) : Option ListingFormat := all.find? (·.name == name)

end ListingFormat

/-- What a complaint about settings points to. -/
inductive SettingsPart where
  | whole
  | rules
  deriving DecidableEq, Repr

def SettingsPart.name : SettingsPart → String
  | whole => "config"
  | rules => "config.rules"

inductive UsageError where
  | noCommand
  | unknownCommand (name : String)
  /-- An option that there is not, and options that are like it. -/
  | unknownOption (name : String) (possible : List String)
  | valueMissing (option : String)
  | valueUnwanted (option : String)
  /-- The value of an option is a path that cannot be asked for. -/
  | pathRefused (option : String) (e : FileError)
  | extraArguments (arguments : List String)
  /-- An error in what should be a command, and commands that are like it. -/
  | proposing (e : UsageError) (commands : List String)
  | reportFormat
  | listingFormat
  | severity
  | settings (part : SettingsPart) (e : SettingsError)
  | twoSources
  | halfRange
  /-- No diff is given, and git makes none. -/
  | noDiff (e : GitError)
  | fileExists (path : String)
  deriving DecidableEq, Repr

namespace UsageError

def choices (names : List String) : String := ", ".intercalate names

/-- A sentence without the points at its end, and a question behind it. -/
def withQuestion (sentence question : String) : String :=
  String.ofList (sentence.toList.reverse.dropWhile (· == '.')).reverse ++ ". " ++ question

/-- What is wrong, without the options that are possible. -/
def complaint : UsageError → String
  | noCommand => "Missing command."
  | unknownCommand name => s!"No such command {Text.quoted name}."
  | unknownOption name _ => s!"No such option: {Text.withControlsSpelled name}"
  | valueMissing option => s!"Option '{option}' requires an argument."
  | valueUnwanted option => s!"Option '{option}' does not take a value."
  | pathRefused option e => s!"Invalid value for '{option}': Value error, {e.message}"
  | extraArguments l =>
    "Got unexpected extra argument(s) (" ++ Text.withControlsSpelled (" ".intercalate l) ++ ")"
  | proposing e [] => e.complaint
  | proposing e commands =>
    withQuestion e.complaint s!"Did you mean {choices (commands.map Text.quoted)}?"
  | reportFormat =>
    "Invalid value for --format: format must be one of: " ++ choices (ReportFormat.all.map (·.name))
  | listingFormat =>
    "Invalid value for --format: format must be one of: " ++
      choices (ListingFormat.all.map (·.name))
  | severity => "Invalid value for --fail-on: fail-on must be one of: " ++ choices severities
  | settings part e => s!"Invalid value for {part.name}: {e.message}"
  | twoSources => "Invalid value: Use either --diff-file or --stdin, not both."
  | halfRange => "Invalid value: Provide both --base and --head together."
  | noDiff e => s!"Invalid value for --repo: {e.message}"
  | fileExists path => s!"Invalid value: Refusing to overwrite existing file: {path}. Pass --force."

/-- The options that may have been meant. -/
def possible : UsageError → List String
  | unknownOption _ possible => possible
  | proposing e _ => e.possible
  | _ => []

def message (e : UsageError) : String :=
  match e.possible with
  | [] => e.complaint
  | options =>
    s!"{e.complaint} (Possible options: {choices (options.mergeSort Text.inOrder)})"

end UsageError

end PatchReview
