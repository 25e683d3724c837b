import PatchReview.Files.Basic
import PatchReview.Glob.Name
import PatchReview.Text.Order

/-! The files that a pattern names.

Each part of a pattern that holds a wildcard is matched against the names in a directory; two
stars stand for any way down, the empty one included. Names that start with a point are
hidden from wildcards, unless the part starts with a point itself. Parts without wildcards
are taken as they are. Where a path cannot be asked for, the names in that directory cannot be
either, and neither can what stands at a path that is too long. -/
namespace PatchReview.Files

variable [Text.StandIns]

/-- Whether a part of a pattern holds a wildcard. -/
def hasWildcard (part : String) : Bool := part.toList.any "*?[".toList.contains

def isHidden (name : String) : Bool := name.toList.head? == some '.'

/-- A name behind a directory. -/
def behind (directory name : String) : String :=
  if directory == "" || directory.toList.getLast? == some '/' then directory ++ name
  else directory ++ "/" ++ name

/-- The location of a directory. -/
def directoryAt? (f : Files) (directory : Path) : Option Location :=
  match f.walk directory.text (f.start directory) directory.parts with
  | .ok l => if f.node? l == some .directory then some l else none
  | .error _ => none

/-- The ways down from a directory, to any depth, that are not hidden. -/
def waysDown (f : Files) (onlyDirectories : Bool) (l : Location) : List String :=
  let ways := (f.descendants l).filter fun rest =>
    !rest.any isHidden && (!onlyDirectories || f.node? (l ++ rest) == some .directory)
  ways.map "/".intercalate

/-- The names in a directory that a part with wildcards accepts. -/
def namesAccepted (f : Files) (onlyDirectories : Bool) (l : Location) (part : String) :
    List String :=
  (f.names l).filter fun name =>
    (isHidden part || !isHidden name) && Glob.Name.accepts part name &&
      (!onlyDirectories || f.node? (l ++ [name]) == some .directory)

/-- The names that a part of a pattern takes in a directory. Two stars take the empty name
whether there is such a directory or not. -/
def namesTaken (f : Files) (onlyDirectories : Bool) (directory part : String) :
    Outcome (List String) :=
  let d := Path.ofText directory
  if !hasWildcard part then
    .ok (if f.leadsSomewhere (.ofText (behind directory part)) then [part] else [])
  else
    match pathFault? directory with
    | some e => .error (.file e)
    | none =>
      let l? := f.directoryAt? d
      if part == "**" then .ok ("" :: l?.elim [] (f.waysDown onlyDirectories))
      else .ok (l?.elim [] fun l => f.namesAccepted onlyDirectories l part)

/-- What the parts of a pattern lead to; the last part comes first. -/
def placesOf (f : Files) (slashes : Nat) (onlyDirectories : Bool) :
    List String → Outcome (List String)
  | [] => .ok []
  | part :: before => do
    let directories ←
      if before.any hasWildcard then placesOf f slashes true before
      else if slashes = 0 && before.isEmpty then pure [""]
      else pure [(Path.mk slashes before.reverse).text]
    let places ← directories.mapM fun d =>
      return (← namesTaken f onlyDirectories d part).map (behind d)
    return places.flatten

/-- The files that a pattern names, in order and each once. -/
def expand (f : Files) (pattern : Path) : Outcome (List Path) := do
  let places ← f.placesOf pattern.slashes false pattern.parts.reverse
  let sorted := places.mergeSort Text.inOrder
  return (← (sorted.map Path.ofText).filterM f.isFile).eraseDups

end PatchReview.Files
