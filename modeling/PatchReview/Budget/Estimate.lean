import PatchReview.Number.Arithmetic
import PatchReview.Text.Case
import PatchReview.Text.Scan
import PatchReview.Text.Utf8

/-! How many tokens a text is estimated to take.

The estimate is the number of bytes times a rate, rounded up. The rate belongs to the
family of the model and grows with the density of the text: for text that starts like code,
for many brackets and separators, and for much blank space. Rates are numbers of the 64-bit
binary format and so are their sums and products. An empty text takes no tokens
(`estimateFor_empty`). -/
namespace PatchReview.Budget

open Text

/-- A decimal number with two places, in hundredths. -/
def hundredths (n : Nat) : Binary64 := .ofRatio false n 100

/-- Tokens per byte of the families that are known, in hundredths. -/
def familyRates : List (String × Nat) :=
  [("openai", 30), ("anthropic", 28), ("gemini", 32), ("ollama", 30), ("mock", 25)]

/-- Tokens per byte of any other family, in hundredths. -/
def otherRate : Nat := 30

/-- Tokens per byte for a family, whose name is in lower case. -/
def baseRate (family : String) : Binary64 :=
  hundredths ((familyRates.lookup family).getD otherRate)

/-- Words that code starts with. -/
def codeWords : List String := ["class", "function", "interface", "namespace"]

/-- Whether a text starts like a diff line or like code. -/
def startsLikeCode (s : List Char) : Bool :=
  (afterAny? ["+", "-", "@@"] s).isSome || (afterAny? codeWords (trimStart s)).isSome

/-- Brackets and separators. -/
def isSymbol (c : Char) : Bool := "\x7b\x7d();,[]<>".toList.contains c

/-- The blanks that count as space. -/
def isSpacing (c : Char) : Bool := c == ' ' || c == '\t' || c == '\n'

/-- By how much a text costs more than plain prose: a tenth for code, a tenth if more than a
twentieth of its bytes are symbols, a twentieth if more than three tenths are space. -/
def density (s : List Char) : Binary64 :=
  let length := max 1 (Utf8.byteLength s)
  let plain := hundredths 100
  let code := if startsLikeCode s then plain.add (hundredths 10) else plain
  let symbols := if length < 20 * s.countP isSymbol then code.add (hundredths 10) else code
  if 3 * length < 10 * s.countP isSpacing then symbols.add (hundredths 5) else symbols

/-- The estimated number of tokens of a text for a family of models. -/
def estimateFor (family : String) (text : String) : Nat :=
  let s := text.toList
  let tokens := (Binary64.ofInt (Utf8.byteLength s)).mul ((baseRate family).mul (density s))
  (tokens.ceiling?.getD 0).toNat

theorem estimateFor_empty (family : String) : estimateFor family "" = 0 := by
  have h : Binary64.ofInt (Utf8.byteLength []) = .finite false 0 0 := rfl
  simp [estimateFor, h, Binary64.ceiling?_zero_mul]

end PatchReview.Budget
