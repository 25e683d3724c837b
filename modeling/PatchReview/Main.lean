import PatchReview.Command.Needs
import PatchReview.Moment.Epoch
import Std.Time.DateTime.Timestamp

/-! The program: it looks at the files that the command needs, carries the command out and
does what came of it. It runs no other program, so for it there is no git. -/
namespace PatchReview.Program

open Command

/-- The variables of the environment. -/
def environment : IO Environment := do
  try
    let bytes ← IO.FS.readBinFile "/proc/self/environ"
    let text := String.ofList (Text.Utf8.decodeLenient bytes.toList)
    return (text.splitOn "\x00").filterMap fun setting =>
      match setting.splitOn "=" with
      | name :: value@(_ :: _) => some (name, "=".intercalate value)
      | _ => none
  catch _ => return []

/-- The texts that a command is given from outside. -/
def textsOf (arguments : List String) (s : Surroundings) : List String :=
  s.input :: arguments ++ s.environment.flatMap fun (name, value) => [name, value]

/-- What stands at a location, if anything does; the content of a file only if it is asked for. -/
def nodeAt (l : Location) (content : Bool) : IO (Option Node) := do
  let path := (← IO.currentDir) / Location.text l
  if ← path.isDir then return some .directory
  if !(← path.pathExists) then return none
  if !content then return some (.file [])
  try return some (.file (← IO.FS.readBinFile path).toList)
  catch _ => return none

/-- The names in a directory; those that are links are not followed further. -/
def namesIn (l : Location) : IO (List String) := do
  let path := (← IO.currentDir) / Location.text l
  try
    if (← path.symlinkMetadata).type == .symlink || !(← path.isDir) then return []
    return (← path.readDir).toList.map (·.fileName)
  catch _ => return []

/-- Characters for which neither some texts nor the files have a use. -/
def sparesFor (texts : List String) (files : Files) : Text.Spares :=
  .besides (texts.map (·.toList) ++ files.nodes.map fun (l, node) =>
    match node with
    | .file bytes => (Location.text l).toList ++ Text.Utf8.decodeLenient bytes
    | .directory => (Location.text l).toList)

/-- The files with all that a command needs to know of them. -/
def filled (files : Files) (needs : Needs) : IO Files := do
  let mut nodes := files.nodes
  for p in needs.paths do
    for l in waypoints files p do
      if let some node ← nodeAt l true then nodes := nodes.put l node
  let mut waiting := needs.directories.map files.resolve
  repeat
    match waiting with
    | [] => break
    | l :: rest =>
      let below := (← namesIn l).map fun name => l ++ [name]
      for k in below do
        if (nodes.get? k).isNone then
          if let some node ← nodeAt k false then nodes := nodes.put k node
      waiting := below ++ rest
  return { files with nodes := nodes }

/-- How often needs are looked at anew: for settings, for what they name, for what that names. -/
def rounds : Nat := 3

/-- Writes the files that a command has changed. -/
def writeChanges (before after : Files) : IO Unit := do
  for (l, node) in after.nodes do
    if before.nodes.get? l != some node then
      if let .file bytes := node then
        let here ← IO.currentDir
        IO.FS.createDirAll (here / Location.text l.dropLast)
        IO.FS.writeBinFile (here / Location.text l) bytes.toByteArray

/-- The text on standard input, if a command reads it. -/
def inputFor (c : Command) : IO String := do
  if !readsInput c then return ""
  let stdin ← IO.getStdin
  let mut bytes := ByteArray.empty
  repeat
    let more ← stdin.read 65536
    if more.isEmpty then break
    bytes := bytes ++ more
  return String.ofList (Text.Utf8.decodeLenient bytes.toList)

/-- What a command with some arguments finds outside itself, with the files that it needs. -/
def surroundings (arguments : List String) (c : Command) : IO Surroundings := do
  let here := (Path.ofText (← IO.currentDir).toString).parts
  let time := (← Std.Time.Timestamp.now).val
  let seconds := time.second.toInt.toNat
  let mut s : Surroundings :=
    { environment := ← environment
      files := ⟨here, [(here, .directory)]⟩
      input := ← inputFor c
      reportTime := reportTime seconds
      journalTime := journalTime seconds (time.nano.toInt.toNat / 1000)
      toTerminal := ← (← IO.getStdout).isTty
      streams := .utf8
      git := .absent }
  for _ in List.range rounds do
    let _ : Text.StandIns := ⟨sparesFor (textsOf arguments s) s.files⟩
    s := { s with files := ← filled s.files (needs s c) }
  return s

/-- Does what came of some arguments, and gives the exit code. -/
def finish (s : Surroundings) (arguments : List String) : IO UInt32 := do
  let _ : Text.StandIns := ⟨sparesFor (textsOf arguments s) s.files⟩
  let result := resultOfArguments s arguments
  writeChanges s.files result.progress.files
  (← IO.getStdout).putStr result.progress.output
  (← IO.getStderr).putStr (result.errors s)
  return result.status.toUInt32

end PatchReview.Program

def main (arguments : List String) : IO UInt32 := do
  let spares := PatchReview.Text.Spares.besides (arguments.map (·.toList))
  let _ : PatchReview.Text.StandIns := ⟨spares⟩
  let command := (PatchReview.Command.ofArguments arguments).toOption.getD .version
  let s ← PatchReview.Program.surroundings arguments command
  PatchReview.Program.finish s arguments
