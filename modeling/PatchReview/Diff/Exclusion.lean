import PatchReview.Diff.Blocks
import PatchReview.Failure
import PatchReview.Glob.Pathname

/-! Leaving files out of a review.

A pattern that ends in a slash leaves out a directory and everything below it. A pattern
without a point leaves out a directory of that name if it contains a slash or is the usual
name of a directory; besides, every such pattern and every other one is a path pattern for
whole paths. The `b/` in front of a block's name does not count. Patterns are looked at one
after the other until one leaves the path out, and a pattern that cannot be read is only
noticed when it is looked at. -/
namespace PatchReview.Diff

variable [Text.StandIns]

/-- Names that usually belong to directories. -/
def commonDirectories : List String := [
  "vendor", "node_modules", "build", "dist", "target", "bin", "obj", "tmp", "temp", "cache", "logs",
  "var", "public", "assets", "lib", "libs", "deps", "dependencies", "modules", "packages", "src",
  "test", "tests", "spec", "specs", "docs", "doc", "documentation"]

/-- A text without the slashes at its end. -/
def withoutEndSlashes (s : List Char) : List Char := (s.reverse.dropWhile (· == '/')).reverse

/-- Whether a path is a directory or lies below it; slashes at the end of the directory's name
do not count. -/
def isWithin (directory path : String) : Bool :=
  let d := withoutEndSlashes directory.toList
  path.toList == d || Text.startsWith (d ++ ['/']) path.toList

/-- Whether a pattern can be the name of a directory. -/
def maybeDirectory (pattern : String) : Bool :=
  !pattern.toList.contains '.' &&
    (pattern.toList.contains '/' || commonDirectories.contains pattern)

/-- What it comes to that a path pattern cannot be made ready. -/
def patternFailure : Pattern.Fault → Failure
  | .clashingTables => .clashingTables
  | .hugeRepeat => .hugeRepeat
  | .longCount digits => .numeral (.tooLong digits)
  | .tooDeep => .tooDeep
  | e => .pathPattern e.message

/-- A path pattern's verdict on a path. -/
def pathnameAccepts (pattern path : String) : Outcome Bool :=
  (Glob.Pathname.accepts pattern path).mapError patternFailure

/-- Whether a pattern leaves out a path. -/
def excludes (pattern path : String) : Outcome Bool :=
  if pattern.toList.getLast? = some '/' then .ok (isWithin pattern path)
  else if maybeDirectory pattern && isWithin pattern path then .ok true
  else pathnameAccepts pattern path

/-- A path without the mark of the changed side. -/
def withoutSide (path : String) : String :=
  match Text.after? ['b', '/'] path.toList with
  | some rest => String.ofList rest
  | none => path

/-- Whether one of the patterns leaves out a path. -/
def anyExcludes (path : String) : List String → Outcome Bool
  | [] => .ok false
  | pattern :: rest =>
    match excludes pattern path with
    | .error e => .error e
    | .ok true => .ok true
    | .ok false => anyExcludes path rest

/-- Whether a file is left out. -/
def isExcluded (patterns : List String) (path : String) : Outcome Bool :=
  anyExcludes (withoutSide path) patterns

/-- The blocks that are not left out. -/
def withoutExcluded (patterns : List String) : Blocks → Outcome Blocks
  | [] => .ok []
  | (key, block) :: rest => do
    let out ← isExcluded patterns key
    let kept ← withoutExcluded patterns rest
    return if out then kept else (key, block) :: kept

/-- The blocks of all files of a diff that are not left out. -/
def keptBlocks (patterns : List String) (diff : String) : Outcome Blocks :=
  withoutExcluded patterns (blocks diff)

end PatchReview.Diff
