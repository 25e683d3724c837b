import PatchReview.Failure
import PatchReview.Files.Path
import PatchReview.Keyed
import PatchReview.Text.Lines

/-! The files that a run sees.

`Files` is a picture of them at one moment, together with the working directory. Following a
path needs every part before the last to be a directory, also where the next part leads
back. A name is looked up only if it is not too long, and so is a whole path; a path that
holds a NUL, or halves of surrogate pairs that stand for no byte, leads nowhere. -/
namespace PatchReview

variable [Text.StandIns]

/-- The names from the root down to a file or directory. -/
abbrev Location := List String

inductive Node where
  | directory
  | file (bytes : List UInt8)
  deriving DecidableEq, Repr

structure Files where
  /-- The working directory. -/
  here : Location
  /-- Files and directories; those that lead to them need not be listed. -/
  nodes : Keyed Location Node

/-- The location as a path. -/
def Location.path (l : Location) : Path := ⟨1, l⟩

/-- The text of a location. -/
def Location.text (l : Location) : String := (Location.path l).text

namespace Files

/-- The part of a location below a directory, if it lies below. -/
def below? (directory l : Location) : Option (List String) :=
  if directory.isPrefixOf l && directory != l then some (l.drop directory.length) else none

/-- What stands at a location. -/
def node? (f : Files) (l : Location) : Option Node :=
  match f.nodes.get? l with
  | some node => some node
  | none =>
    if l.isPrefixOf f.here || f.nodes.any fun (k, _) => (below? l k).isSome then some .directory
    else none

def isFileAt (f : Files) (l : Location) : Bool :=
  match f.node? l with
  | some (.file _) => true
  | _ => false

/-- The most bytes of a name. -/
def nameLimit : Nat := 255

/-- The most bytes of a path. -/
def pathLimit : Nat := 4095

/-- Whether a path has more than so many bytes. -/
def isLonger (s : String) (limit : Nat) : Bool := limit < Text.Utf8.pathLength s.toList

/-- Why a path cannot be asked for, if it cannot. -/
def pathFault? (path : String) : Option FileError :=
  match Text.Utf8.pathError? path.toList with
  | some e => some (.notEncodable e)
  | none => if path.toList.contains (Char.ofNat 0) then some .embeddedNull else none

/-- Where names lead from a location; `text` is the path in messages. -/
def walk (f : Files) (text : String) (l : Location) : List String → Except FileError Location
  | [] => .ok l
  | name :: rest =>
    match f.node? l with
    | some .directory =>
      if isLonger name nameLimit then .error (.nameTooLong text)
      else walk f text (if name == ".." then l.dropLast else l ++ [name]) rest
    | some (.file _) => .error (.notADirectory text)
    | none => .error (.notFound text)

/-- Where a path starts. -/
def start (f : Files) (p : Path) : Location := if p.isAbsolute then [] else f.here

/-- What stands at a path. -/
def find (f : Files) (p : Path) : Except FileError Node := do
  if let some e := pathFault? p.text then throw e
  if isLonger p.text pathLimit then throw (.nameTooLong p.text)
  let l ← f.walk p.text (f.start p) p.parts
  match f.node? l with
  | some node => return node
  | none => throw (.notFound p.text)

/-- Whether something can be found at a path. -/
def leadsSomewhere (f : Files) (p : Path) : Bool := (f.find p).isOk

/-- What stands at a path, if anything does. Only what is too long to be looked up is a
failure. -/
def find? (f : Files) (p : Path) : Outcome (Option Node) :=
  match f.find p with
  | .ok node => .ok (some node)
  | .error (.nameTooLong text) => .error (.file (.nameTooLong text))
  | .error _ => .ok none

/-- Whether something stands at a path. -/
def exists? (f : Files) (p : Path) : Outcome Bool := (f.find? p).map (·.isSome)

/-- Whether a file stands at a path. -/
def isFile (f : Files) (p : Path) : Outcome Bool :=
  (f.find? p).map fun node => match node with | some (.file _) => true | _ => false

/-- The bytes of the file at a path. -/
def bytes (f : Files) (p : Path) : Except FileError (List UInt8) := do
  match ← f.find p with
  | .file bytes => return bytes
  | .directory => throw (.isDirectory p.text)

/-- The text of the file at a path. -/
def read (f : Files) (p : Path) : Except FileError String := do
  let chars ← (Text.Utf8.decode (← f.bytes p)).mapError .notText
  return String.ofList (Text.universalNewlines chars)

/-- The text that is meant by bytes, with a mark for what is no text. -/
def lenientText (bytes : List UInt8) : String :=
  String.ofList (Text.universalNewlines (Text.Utf8.decodeLenient bytes))

/-- The text of the file at a path, with a mark for what is no text. -/
def readLeniently (f : Files) (p : Path) : Except FileError String := do
  return lenientText (← f.bytes p)

/-- Where a path leads, by its names alone. -/
def resolve (f : Files) (p : Path) : Location :=
  p.parts.foldl (fun l name => if name == ".." then l.dropLast else l ++ [name]) (f.start p)

/-- The names in a directory. -/
def names (f : Files) (l : Location) : List String :=
  (f.nodes.filterMap fun (k, _) => (below? l k).bind List.head?).eraseDups

/-- The locations below a directory, from there, at any depth. -/
def descendants (f : Files) (l : Location) : List (List String) :=
  (f.nodes.flatMap fun (k, _) =>
    match below? l k with
    | none => []
    | some rest => (List.range rest.length).map fun n => rest.take (n + 1)).eraseDups

/-- The way to a location up to its first name that is too long. -/
def firstTooLong? (l : Location) : Option Location :=
  ((List.range l.length).find? fun n => l[n]?.any (isLonger · nameLimit)).map
    fun n => l.take (n + 1)

/-- The files with a file written; the directories that lead to it are made. -/
def write (f : Files) (l : Location) (bytes : List UInt8) : Except FileError Files :=
  let parent := l.dropLast
  if f.isFileAt parent then .error (.alreadyExists (Location.text parent))
  else if (List.range parent.length).any fun n => f.isFileAt (parent.take n) then
    .error (.notADirectory (Location.text parent))
  else
    match firstTooLong? l with
    | some long => .error (.nameTooLong (Location.text long))
    | none =>
      if f.node? l == some .directory then .error (.isDirectory (Location.text l))
      else .ok { f with nodes := f.nodes.put l (.file bytes) }

end Files

end PatchReview
