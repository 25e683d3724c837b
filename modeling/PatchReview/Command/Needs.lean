import PatchReview.Command.Result

/-! What a command has to know of the files.

Which files it will read can depend on what stands in others: settings name guidelines and
rules. `Command.needs` is what a command needs as far as that is known from the files seen so
far; when it grows no more, the files seen are all that the command looks at. -/
namespace PatchReview.Command

variable [Text.StandIns]

structure Needs where
  /-- Paths to what may be read. -/
  paths : List Path
  /-- Directories below which all names are needed. -/
  directories : List Path
  deriving DecidableEq, Repr

def Needs.append (a b : Needs) : Needs := ⟨a.paths ++ b.paths, a.directories ++ b.directories⟩

/-- What a pattern for files with rules needs. -/
def patternNeeds (files : Files) (pattern : Path) : Needs where
  paths := (files.expand pattern).toOption.getD []
  directories := [{ pattern with parts := pattern.parts.takeWhile (!Files.hasWildcard ·) }]

/-- What the guidelines and the rules of some settings need. -/
def namedNeeds (files : Files) (settings : Settings) : Needs :=
  let guidelines := settings.guidelinesFile.toList.map (Settings.fromRoot settings.root)
  let patterns := settings.rules.included.map (Settings.fromRoot settings.root)
  patterns.foldl (fun needs p => needs.append (patternNeeds files p)) ⟨guidelines, []⟩

/-- What the settings of a repository need. -/
def settingsNeeds (s : Surroundings) (repository : Path) (asked : Option Path) : Needs :=
  let root := Location.path (s.files.resolve repository)
  let names := Settings.fileNames ++ [Settings.projectFile]
  let own : Needs :=
    match asked with
    | some p => ⟨[root.join p], []⟩
    | none => ⟨names.map fun n => root.join (.ofText n), []⟩
  match (Settings.load s.environment s.files repository asked).result.1 with
  | .ok found => own.append (namedNeeds s.files found)
  | .error _ => own

def needs (s : Surroundings) : Command → Needs
  | .version | .help _ => ⟨[], []⟩
  | .review o => (settingsNeeds s o.repository o.settingsFile).append ⟨o.source.diffFile.toList, []⟩
  | .chunks o => (settingsNeeds s o.repository o.settingsFile).append ⟨o.source.diffFile.toList, []⟩
  | .rules o | .settings o => settingsNeeds s o.repository o.settingsFile
  | .start out _ => ⟨[Location.path (s.files.resolve out)], []⟩

/-- Whether a command reads standard input. -/
def readsInput : Command → Bool
  | .review o => o.source.fromInput
  | .chunks o => o.source.fromInput
  | _ => false

/-- The locations on the way along a path. -/
def waypoints (files : Files) (p : Path) : List Location :=
  (p.parts.foldl
    (fun (way : List Location × Location) name =>
      let next := if name == ".." then way.2.dropLast else way.2 ++ [name]
      (way.1 ++ [next], next))
    ([files.start p], files.start p)).1

end PatchReview.Command
