import PatchReview.Settings.Reader
import PatchReview.Toml.Reader

/-! The settings of a repository.

They are read from the file that is asked for, or from the first file with settings that
there is, or from the section for this program in the file that describes a project. A
repository without any of these has the default settings. -/
namespace PatchReview.Settings

variable [Text.StandIns]

/-- The files with settings, in the order in which they are looked for. -/
def fileNames : List String := [".diff-review.toml", "diff-review.toml"]

/-- The file that describes a project. -/
def projectFile : String := "pyproject.toml"

/-- The sections for this program among those for tools. -/
def sectionNames : List String := ["diff_review", "diff-review"]

/-- The section for this program in a document. -/
def toolSection? (document : Entries) : Option Entries :=
  match document.get? "tool" with
  | some (.table tools) => sectionNames.findSome? fun name => (Keyed.get? name tools).bind table?
  | _ => none

/-- The document in a file. -/
def document (files : Files) (path : Path) : Outcome Entries :=
  match files.read path with
  | .error e => .error (.settings (.unreadableFile path.text e))
  | .ok text =>
    match Toml.read text with
    | .ok entries => .ok entries
    | .error (.numeral e) => .error (.numeral e)
    | .error .tooDeep => .error .tooDeep
    | .error fault => .error (.settings (.malformedFile path.text fault.message))

/-- The settings in a file. A section for this program stands for the whole document, and the
file that describes a project has no other settings. -/
def ofFile (env : Environment) (files : Files) (root path : Path) : Logged Settings := do
  let entries ← document files path
  let used := (toolSection? entries).getD (if path.name == projectFile then [] else entries)
  ofEntries env files (some root) (some path.text) used

/-- The first of some paths at which something stands. -/
def firstThere? (files : Files) : List Path → Outcome (Option Path)
  | [] => .ok none
  | path :: rest => do if ← files.exists? path then return some path else firstThere? files rest

/-- The settings of a repository, or those in the file asked for. -/
def load (env : Environment) (files : Files) (repository : Path) (asked : Option Path) :
    Logged Settings := do
  let root := Location.path (files.resolve repository)
  match asked with
  | some path =>
    let path := root.join path
    if !(← files.exists? path) then throw (.settings (.fileMissing path.text))
    ofFile env files root path
  | none =>
    match ← firstThere? files (fileNames.map fun name => root.join (.ofText name)) with
    | some path => ofFile env files root path
    | none =>
      let path := root.join (.ofText projectFile)
      if !(← files.exists? path) then return default (some root)
      match toolSection? (← document files path) with
      | none | some [] => return default (some root)
      | some used => ofEntries env files (some root) (some path.text) used

end PatchReview.Settings
