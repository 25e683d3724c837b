import PatchReview.Command.Basic
import PatchReview.Files.Basic

/-! Reading the command line.

The program's own options come before the name of a command, and the command's options, in
any order, behind it. An option is given by its name, and if it takes a value, by the next
argument or behind an equals sign; of those that say the same thing the last one counts.
Behind two hyphens there are no options.

An option or a command that there is not is answered with those that are like it. -/
namespace PatchReview.Command

variable [Text.StandIns]

/-- How an option can be given. -/
structure OptionForm where
  /-- The argument. -/
  name : String
  /-- What it says. -/
  key : String
  /-- The value that it stands for; without one it takes a value. -/
  value : Option String
  deriving DecidableEq, Repr

def takesValue (name : String) : OptionForm := ⟨"--" ++ name, name, none⟩

def yes : String := "yes"

def isFlag (name : String) : OptionForm := ⟨"--" ++ name, name, some yes⟩

def sourceForms : List OptionForm :=
  [takesValue "diff-file", isFlag "stdin", takesValue "base", takesValue "head"]

def repositoryForms : List OptionForm := [takesValue "repo", takesValue "config"]

def reviewForms : List OptionForm :=
  sourceForms ++ repositoryForms ++
    [takesValue "format", takesValue "provider", takesValue "fail-on", isFlag "color",
      ⟨"--no-color", "color", some "no"⟩, takesValue "log-level", isFlag "log-json"]

def chunkForms : List OptionForm := sourceForms ++ repositoryForms ++ [takesValue "provider"]

def listingForms : List OptionForm := repositoryForms ++ [takesValue "format"]

def startForms : List OptionForm := [takesValue "out", isFlag "force"]

/-- Options for shells that complete arguments; they change nothing. -/
def completionForms : List OptionForm := [isFlag "install-completion", isFlag "show-completion"]

/-- The options of the program itself. -/
def programForms : List OptionForm := isFlag "version" :: completionForms

/-- Every command can be asked what its options are. -/
def helpForm : OptionForm := isFlag "help"

/-- The options whose values are paths. -/
def pathOptions : List String := ["diff-file", "repo", "config", "out"]

/-- What the options say, by key, and the arguments that are no options. -/
structure Arguments where
  options : Keyed String String
  others : List String
  deriving Repr

/-- An argument cut at its first equals sign. -/
def cutAtEquals (argument : String) : String × Option String :=
  match argument.toList.span (· != '=') with
  | (name, []) => (String.ofList name, none)
  | (name, _ :: value) => (String.ofList name, some (String.ofList value))

/-- Whether an argument has the look of an option. -/
def looksLikeOption (argument : String) : Bool :=
  argument.toList.head? == some '-' && argument != "-"

/-- What is wrong with an option that there is not. With one hyphen only its first letter is
looked at. -/
def unknown (forms : List OptionForm) (name argument : String) : UsageError :=
  match argument.toList with
  | '-' :: '-' :: _ => .unknownOption name (Text.Likeness.closest name (forms.map (·.name)))
  | s => .unknownOption (String.ofList (s.take 2)) []

/-- Reads arguments behind those read so far. If options may not stand `anywhere`, the first
argument that is none ends them. -/
def readArguments (forms : List OptionForm) (anywhere : Bool) (sofar : Arguments) :
    List String → Except UsageError Arguments
  | [] => .ok sofar
  | argument :: rest =>
    if argument == "--" then .ok { sofar with others := sofar.others ++ rest }
    else if looksLikeOption argument then
      let (name, value?) := cutAtEquals argument
      match forms.find? (·.name == name) with
      | none => .error (unknown forms name argument)
      | some form =>
        let extended (value : String) : Arguments :=
          { sofar with options := sofar.options.put form.key value }
        match form.value, value?, rest with
        | some value, none, rest => readArguments forms anywhere (extended value) rest
        | some _, some _, _ => .error (.valueUnwanted name)
        | none, some value, rest => readArguments forms anywhere (extended value) rest
        | none, none, value :: rest => readArguments forms anywhere (extended value) rest
        | none, none, [] => .error (.valueMissing name)
    else if anywhere then
      readArguments forms anywhere { sofar with others := sofar.others ++ [argument] } rest
    else .ok { sofar with others := sofar.others ++ argument :: rest }

/-- What is wrong with the first option that is given a path that cannot be asked for. -/
def refusedPath? (options : Keyed String String) : Option UsageError :=
  options.findSome? fun (key, value) =>
    if pathOptions.contains key then (Files.pathFault? value).map (.pathRefused ("--" ++ key))
    else none

def isSet (options : Keyed String String) (key : String) : Bool := options.get? key == some yes

/-- The command that the options of a command make, which takes nothing else. -/
def ofOptions (forms : List OptionForm) (make : Keyed String String → Command)
    (arguments : List String) : Except UsageError Command := do
  let forms := forms ++ [helpForm]
  let read ← readArguments forms true ⟨[], []⟩ arguments
  if isSet read.options helpForm.key then return .help (forms.map (·.name))
  if let some e := refusedPath? read.options then throw e
  if read.others.isEmpty then return make read.options else throw (.extraArguments read.others)

def pathIn (options : Keyed String String) (key : String) : Option Path :=
  (options.get? key).map Path.ofText

def repositoryIn (options : Keyed String String) : Path :=
  (pathIn options "repo").getD (.ofText ".")

def sourceIn (options : Keyed String String) : SourceOptions where
  diffFile := pathIn options "diff-file"
  fromInput := isSet options "stdin"
  base := options.get? "base"
  head := options.get? "head"

def reviewIn (options : Keyed String String) : ReviewOptions where
  source := sourceIn options
  repository := repositoryIn options
  settingsFile := pathIn options "config"
  reviewer := options.get? "provider"
  format := options.get? "format"
  failOn := options.get? "fail-on"
  colour := isSet options "color"
  logLevel := options.get? "log-level"
  logJson := isSet options "log-json"

def chunksIn (options : Keyed String String) : ChunkOptions where
  source := sourceIn options
  repository := repositoryIn options
  settingsFile := pathIn options "config"
  reviewer := options.get? "provider"

def listingIn (options : Keyed String String) : ListingOptions where
  repository := repositoryIn options
  settingsFile := pathIn options "config"
  format := (options.get? "format").getD ListingFormat.human.name

/-- The file that settings to start from are written to by default. -/
def startFile : String := ".diff-review.toml"

/-- The commands by name. -/
def table : List (String × (List String → Except UsageError Command)) := [
  ("review", ofOptions reviewForms fun o => .review (reviewIn o)),
  ("chunks", ofOptions chunkForms fun o => .chunks (chunksIn o)),
  ("rules", ofOptions listingForms fun o => .rules (listingIn o)),
  ("config", ofOptions listingForms fun o => .settings (listingIn o)),
  ("config-init", ofOptions startForms fun o =>
    .start ((pathIn o "out").getD (.ofText startFile)) (isSet o "force"))]

def names : List String := table.map (·.1)

/-- The command that the program's own options make, if they make one, and the arguments
behind them. -/
def readProgram (arguments : List String) : Except UsageError (Option Command × List String) := do
  let forms := programForms ++ [helpForm]
  let read ← readArguments forms false ⟨[], []⟩ arguments
  if isSet read.options helpForm.key then return (some (.help (forms.map (·.name) ++ names)), [])
  if isSet read.options "version" then return (some .version, [])
  return (none, read.others)

/-- What is made of a name that no command has: it is read again for options of the program. -/
def ofUnknown (name : String) (arguments : List String) : Except UsageError Command := do
  if looksLikeOption name then
    if let some c := (← readProgram (name :: arguments)).1 then return c
  throw (.unknownCommand name)

/-- The command of a name, with its arguments. -/
def named (name : String) (arguments : List String) : Except UsageError Command :=
  match table.lookup name with
  | some read => read arguments
  | none => (ofUnknown name arguments).mapError (.proposing · (Text.Likeness.closest name names))

/-- The command that the arguments ask for. -/
def ofArguments (arguments : List String) : Except UsageError Command := do
  match ← readProgram arguments with
  | (some c, _) => return c
  | (none, []) => throw .noCommand
  | (none, name :: rest) => named name rest

end PatchReview.Command
