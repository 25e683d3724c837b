import PatchReview.Files.Basic
import PatchReview.Journal
import PatchReview.Prompt
import PatchReview.Text.Base64

/-! Guidelines for the reviewer.

The text of a file with guidelines is added to the prompts once, encoded. If it cannot be
read, that is written into the journal and the prompts stay as they are; only a path that
cannot be asked for is a failure. -/
namespace PatchReview.Prompts

variable [Text.StandIns]

def guidelinesMark : String := "Coding guidelines file content is provided below in base64"

/-- The text for the prompts about some guidelines. -/
def guidelinesText (content : String) : String :=
  guidelinesMark ++ " (decode and follow strictly):\n" ++
    String.ofList (Text.Base64.encode (Text.Utf8.encode content.toList))

/-- Whether the prompts have guidelines. -/
def haveGuidelines (p : Prompts) : Bool :=
  p.extra.any fun item => Text.occursIn guidelinesMark.toList item.toList

/-- The prompts with the guidelines in a file. -/
def withGuidelines (p : Prompts) (files : Files) (path : Path) : Logged Prompts := do
  if p.haveGuidelines then return p
  match files.read path with
  | .error e =>
    match e with
    | .embeddedNull | .notEncodable _ => throw (.file e)
    | _ =>
      record (.guidelinesUnreadable path.text e)
      return p
  | .ok content =>
    if Text.isBlankText content then return p
    return { p with extra := p.extra ++ [guidelinesText content] }

end PatchReview.Prompts
