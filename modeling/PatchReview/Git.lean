import PatchReview.Failure
import PatchReview.Files.Path
import PatchReview.Text.Blank

/-! Diffs out of a repository.

What comes of running git is given from outside (`Git`). It makes a diff if it ends well. If it
ends otherwise, or if there is no git, that is a `GitError`; whatever else keeps it from being run
is a failure that no one expects. -/
namespace PatchReview

variable [Text.StandIns]

/-- A program that has come to its end. -/
structure Completed where
  code : Int
  output : String
  errors : String
  deriving DecidableEq, Repr

/-- What comes of running git in a directory with some arguments. -/
abbrev Git := Path → List String → Outcome Completed

/-- Why git makes no diff. -/
inductive GitError where
  | exited (arguments : List String) (code : Int) (errors : String)
  /-- There is no such program, or no such directory. -/
  | missing (path : String)
  deriving DecidableEq, Repr

def GitError.message : GitError → String
  | exited arguments code errors =>
    let said := Text.trimmed errors
    let command := " ".intercalate ("git" :: arguments)
    if said.isEmpty then s!"{command} exited with {code}" else said
  | missing path => "git executable not found: " ++ (FileError.notFound path).message

namespace Git

/-- Where there is no git. -/
def absent : Git := fun _ _ => .error (.file (.notFound "git"))

/-- What git is asked for: the changes from one revision to another, or those that are not staged
if the revisions are not both given. -/
def diffArguments (base head : Option String) : List String :=
  let range := match base, head with
    | some base, some head => [base ++ ".." ++ head]
    | _, _ => []
  ["diff", "--no-color", "--no-ext-diff"] ++ range

/-- The diff that git makes of a repository. -/
def diff (git : Git) (repository : Path) (base head : Option String) :
    Outcome (Except GitError String) :=
  let arguments := diffArguments base head
  match git repository arguments with
  | .ok ⟨0, output, _⟩ => .ok (.ok output)
  | .ok ⟨code, _, errors⟩ => .ok (.error (.exited arguments code errors))
  | .error (.file (.notFound path)) => .ok (.error (.missing path))
  | .error e => .error e

end Git

end PatchReview
