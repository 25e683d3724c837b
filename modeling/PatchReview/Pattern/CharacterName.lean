import PatchReview.Text.Hex
import PatchReview.Text.Scan
import PatchReview.Pattern.CharacterName.Alphabets
import PatchReview.Pattern.CharacterName.AncientScripts
import PatchReview.Pattern.CharacterName.EastAsian
import PatchReview.Pattern.CharacterName.Forms
import PatchReview.Pattern.CharacterName.Pictographs
import PatchReview.Pattern.CharacterName.Scripts
import PatchReview.Pattern.CharacterName.Signs
import PatchReview.Pattern.CharacterName.Symbols

/-! Characters by name.

Most names are listed, run by run of consecutive code points. A name in a run starts with a
small letter that tells how many words it shares with the name before it, `a` for none; the
words that it does not share follow. Ideographs are named by their code points and Hangul
syllables by their sounds. Case does not matter in listed names. -/
namespace PatchReview.Pattern

/-- The words of a text. -/
def wordsOf (s : List Char) : List (List Char) :=
  s.foldr
    (fun c words =>
      match words with
      | word :: rest => if c = ' ' then [] :: word :: rest else (c :: word) :: rest
      | [] => [])
    [[]]

/-- The names of a run as they are written: how many words each shares with the one before,
and its other words. -/
def namesIn (run : List String) : List (Nat × List (List Char)) :=
  let (names, _) := (run.flatMap String.toList).foldr
    (fun c (names, tail) =>
      if c.isLower then ((c.toNat - 'a'.toNat, wordsOf tail) :: names, []) else (names, c :: tail))
    (([] : List (Nat × List (List Char))), ([] : List Char))
  names

/-- The code point of a name among those of a run, of which the first has the given one. -/
def findName (name : List (List Char)) :
    List (Nat × List (List Char)) → List (List Char) → Nat → Option Nat
  | [], _, _ => none
  | (shared, words) :: rest, before, code =>
    let here := before.take shared ++ words
    if here = name then some code else findName name rest here (code + 1)

/-- All runs of listed names. -/
def nameRuns : List (List (Nat × List String)) := [
  alphabetsNames, scriptsNames, symbolsNames, eastAsianNames, formsNames, ancientScriptsNames,
  signsNames, pictographsNames]

/-- The code point of a listed name. -/
def listedName? (name : String) : Option Nat :=
  let words := wordsOf name.toList
  nameRuns.findSome? fun runs =>
    runs.findSome? fun (first, run) => findName words (namesIn run) [] first

/-- Further names of control characters and of others. -/
def nameAliases : List (Nat × List String) := [
  (0x0, ["NUL", "NULL"]), (0x1, ["SOH", "START OF HEADING"]), (0x2, ["START OF TEXT", "STX"]),
  (0x3, ["END OF TEXT", "ETX"]), (0x4, ["END OF TRANSMISSION", "EOT"]), (0x5, ["ENQ", "ENQUIRY"]),
  (0x6, ["ACK", "ACKNOWLEDGE"]), (0x7, ["ALERT", "BEL"]), (0x8, ["BACKSPACE", "BS"]),
  (0x9, ["CHARACTER TABULATION", "HORIZONTAL TABULATION", "HT", "TAB"]),
  (0xA, ["END OF LINE", "EOL", "LF", "LINE FEED", "NEW LINE", "NL"]),
  (0xB, ["LINE TABULATION", "VERTICAL TABULATION", "VT"]), (0xC, ["FF", "FORM FEED"]),
  (0xD, ["CARRIAGE RETURN", "CR"]), (0xE, ["LOCKING-SHIFT ONE", "SHIFT OUT", "SO"]),
  (0xF, ["LOCKING-SHIFT ZERO", "SHIFT IN", "SI"]), (0x10, ["DATA LINK ESCAPE", "DLE"]),
  (0x11, ["DC1", "DEVICE CONTROL ONE"]), (0x12, ["DC2", "DEVICE CONTROL TWO"]),
  (0x13, ["DC3", "DEVICE CONTROL THREE"]), (0x14, ["DC4", "DEVICE CONTROL FOUR"]),
  (0x15, ["NAK", "NEGATIVE ACKNOWLEDGE"]), (0x16, ["SYN", "SYNCHRONOUS IDLE"]),
  (0x17, ["END OF TRANSMISSION BLOCK", "ETB"]), (0x18, ["CAN", "CANCEL"]),
  (0x19, ["END OF MEDIUM", "EOM"]), (0x1A, ["SUB", "SUBSTITUTE"]), (0x1B, ["ESC", "ESCAPE"]),
  (0x1C, ["FILE SEPARATOR", "FS", "INFORMATION SEPARATOR FOUR"]),
  (0x1D, ["GROUP SEPARATOR", "GS", "INFORMATION SEPARATOR THREE"]),
  (0x1E, ["INFORMATION SEPARATOR TWO", "RECORD SEPARATOR", "RS"]),
  (0x1F, ["INFORMATION SEPARATOR ONE", "UNIT SEPARATOR", "US"]), (0x20, ["SP"]),
  (0x7F, ["DEL", "DELETE"]), (0x80, ["PAD", "PADDING CHARACTER"]),
  (0x81, ["HIGH OCTET PRESET", "HOP"]), (0x82, ["BPH", "BREAK PERMITTED HERE"]),
  (0x83, ["NBH", "NO BREAK HERE"]), (0x84, ["IND", "INDEX"]), (0x85, ["NEL", "NEXT LINE"]),
  (0x86, ["SSA", "START OF SELECTED AREA"]), (0x87, ["END OF SELECTED AREA", "ESA"]),
  (0x88, ["CHARACTER TABULATION SET", "HORIZONTAL TABULATION SET", "HTS"]),
  (0x89, ["CHARACTER TABULATION WITH JUSTIFICATION",
    "HORIZONTAL TABULATION WITH JUSTIFICATION", "HTJ"]),
  (0x8A, ["LINE TABULATION SET", "VERTICAL TABULATION SET", "VTS"]),
  (0x8B, ["PARTIAL LINE DOWN", "PARTIAL LINE FORWARD", "PLD"]),
  (0x8C, ["PARTIAL LINE BACKWARD", "PARTIAL LINE UP", "PLU"]),
  (0x8D, ["REVERSE INDEX", "REVERSE LINE FEED", "RI"]),
  (0x8E, ["SINGLE SHIFT TWO", "SINGLE-SHIFT-2", "SS2"]),
  (0x8F, ["SINGLE SHIFT THREE", "SINGLE-SHIFT-3", "SS3"]),
  (0x90, ["DCS", "DEVICE CONTROL STRING"]), (0x91, ["PRIVATE USE ONE", "PRIVATE USE-1", "PU1"]),
  (0x92, ["PRIVATE USE TWO", "PRIVATE USE-2", "PU2"]), (0x93, ["SET TRANSMIT STATE", "STS"]),
  (0x94, ["CANCEL CHARACTER", "CCH"]), (0x95, ["MESSAGE WAITING", "MW"]),
  (0x96, ["SPA", "START OF GUARDED AREA", "START OF PROTECTED AREA"]),
  (0x97, ["END OF GUARDED AREA", "END OF PROTECTED AREA", "EPA"]),
  (0x98, ["SOS", "START OF STRING"]), (0x99, ["SGC", "SINGLE GRAPHIC CHARACTER INTRODUCER"]),
  (0x9A, ["SCI", "SINGLE CHARACTER INTRODUCER"]), (0x9B, ["CONTROL SEQUENCE INTRODUCER", "CSI"]),
  (0x9C, ["ST", "STRING TERMINATOR"]), (0x9D, ["OPERATING SYSTEM COMMAND", "OSC"]),
  (0x9E, ["PM", "PRIVACY MESSAGE"]), (0x9F, ["APC", "APPLICATION PROGRAM COMMAND"]),
  (0xA0, ["NBSP"]), (0xAD, ["SHY"]), (0x1A2, ["LATIN CAPITAL LETTER GHA"]),
  (0x1A3, ["LATIN SMALL LETTER GHA"]), (0x34F, ["CGJ"]), (0x61C, ["ALM"]),
  (0x709, ["SYRIAC SUBLINEAR COLON SKEWED LEFT"]), (0xCDE, ["KANNADA LETTER LLLA"]),
  (0xE9D, ["LAO LETTER FO FON"]), (0xE9F, ["LAO LETTER FO FAY"]), (0xEA3, ["LAO LETTER RO"]),
  (0xEA5, ["LAO LETTER LO"]), (0xFD0, ["TIBETAN MARK BKA- SHOG GI MGO RGYAN"]),
  (0x11EC, ["HANGUL JONGSEONG YESIEUNG-KIYEOK"]),
  (0x11ED, ["HANGUL JONGSEONG YESIEUNG-SSANGKIYEOK"]),
  (0x11EE, ["HANGUL JONGSEONG SSANGYESIEUNG"]), (0x11EF, ["HANGUL JONGSEONG YESIEUNG-KHIEUKH"]),
  (0x180B, ["FVS1"]), (0x180C, ["FVS2"]), (0x180D, ["FVS3"]), (0x180E, ["MVS"]),
  (0x180F, ["FVS4"]), (0x200B, ["ZWSP"]), (0x200C, ["ZWNJ"]), (0x200D, ["ZWJ"]), (0x200E, ["LRM"]),
  (0x200F, ["RLM"]), (0x202A, ["LRE"]), (0x202B, ["RLE"]), (0x202C, ["PDF"]), (0x202D, ["LRO"]),
  (0x202E, ["RLO"]), (0x202F, ["NNBSP"]), (0x205F, ["MMSP"]), (0x2060, ["WJ"]), (0x2066, ["LRI"]),
  (0x2067, ["RLI"]), (0x2068, ["FSI"]), (0x2069, ["PDI"]),
  (0x2118, ["WEIERSTRASS ELLIPTIC FUNCTION"]), (0x2448, ["MICR ON US SYMBOL"]),
  (0x2449, ["MICR DASH SYMBOL"]),
  (0x2B7A, ["LEFTWARDS TRIANGLE-HEADED ARROW WITH DOUBLE VERTICAL STROKE"]),
  (0x2B7C, ["RIGHTWARDS TRIANGLE-HEADED ARROW WITH DOUBLE VERTICAL STROKE"]),
  (0xA015, ["YI SYLLABLE ITERATION MARK"]), (0xAA6E, ["MYANMAR LETTER KHAMTI LLA"]),
  (0xFE18, ["PRESENTATION FORM FOR VERTICAL RIGHT WHITE LENTICULAR BRACKET"]),
  (0xFEFF, ["BOM", "BYTE ORDER MARK", "ZWNBSP"]), (0x122D4, ["CUNEIFORM SIGN NU11 TENU"]),
  (0x122D5, ["CUNEIFORM SIGN NU11 OVER NU11 BUR OVER BUR"]),
  (0x16E56, ["MEDEFAIDRIN CAPITAL LETTER H"]), (0x16E57, ["MEDEFAIDRIN CAPITAL LETTER NG"]),
  (0x16E76, ["MEDEFAIDRIN SMALL LETTER H"]), (0x16E77, ["MEDEFAIDRIN SMALL LETTER NG"]),
  (0x1B001, ["HENTAIGANA LETTER E-1"]),
  (0x1D0C5, ["BYZANTINE MUSICAL SYMBOL FTHORA SKLIRON CHROMA VASIS"])]

/-- The character of a further name; variation selectors are numbered. -/
def aliasedName? (name : String) : Option Nat :=
  match nameAliases.find? (·.2.contains name) with
  | some (n, _) => some n
  | none =>
    match name.toList with
    | 'V' :: 'S' :: digits =>
      (List.range' 1 256).find? (fun k => (toString k).toList = digits) |>.map fun k =>
        if k ≤ 16 then 0xFE00 + k - 1 else 0xE0100 + k - 17
    | _ => none

/-! ### Names by rule -/

/-- Characters that are named by their code points: what the name starts with, and the first and
last code point. -/
def numberedBlocks : List (String × Nat × Nat) := [
  ("CJK COMPATIBILITY IDEOGRAPH-", 0xF900, 0xFA6D),
  ("CJK COMPATIBILITY IDEOGRAPH-", 0xFA70, 0xFAD9),
  ("CJK COMPATIBILITY IDEOGRAPH-", 0x2F800, 0x2FA1D),
  ("KHITAN SMALL SCRIPT CHARACTER-", 0x18B00, 0x18CD5), ("NUSHU CHARACTER-", 0x1B170, 0x1B2FB)]

/-- A code point in capital hexadecimal digits, four at least. -/
def capitalHex (n : Nat) : List Char :=
  (Text.hexDigits n (if n < 0x10000 then 4 else 5)).map Char.toUpper

/-- The character of a name that ends in its code point. -/
def numberedName? (name : String) : Option Nat :=
  numberedBlocks.findSome? fun (start, first, last) => do
    let digits ← Text.after? start.toList name.toList
    let n := Text.hexRunValue digits
    if first ≤ n ∧ n ≤ last ∧ digits = capitalHex n then some n else none

/-- The blocks of unified ideographs, by first and last code point. -/
def ideographBlocks : List (Nat × Nat) := [
  (0x3400, 0x4DBF), (0x4E00, 0x9FFF), (0x20000, 0x2A6DF), (0x2A700, 0x2B738), (0x2B740, 0x2B81D),
  (0x2B820, 0x2CEA1), (0x2CEB0, 0x2EBE0), (0x30000, 0x3134A)]

/-- The code point that a unified ideograph's name ends in, with four or five capital digits. -/
def ideographNamed? (name : String) : Option Nat := do
  let digits ← Text.after? "CJK UNIFIED IDEOGRAPH-".toList name.toList
  let n := Text.hexRunValue digits
  let spelled := digits.all fun c => Text.isHexDigit c && !c.isLower
  if spelled ∧ (digits.length = 4 ∨ digits.length = 5) ∧
      ideographBlocks.any (fun (first, last) => first ≤ n && n ≤ last) then some n
  else none

/-- The sounds that a syllable starts with, has in the middle and ends with. -/
def syllableStarts : List String := [
  "G", "GG", "N", "D", "DD", "R", "M", "B", "BB", "S", "SS", "", "J", "JJ", "C", "K", "T", "P", "H"]

def syllableMiddles : List String := [
  "A", "AE", "YA", "YAE", "EO", "E", "YEO", "YE", "O", "WA", "WAE", "OE", "YO", "U", "WEO", "WE",
  "WI", "YU", "EU", "YI", "I"]

def syllableEnds : List String := [
  "", "G", "GG", "GS", "N", "NJ", "NH", "D", "L", "LG", "LM", "LB", "LS", "LT", "LP", "LH",
  "M", "B", "BS", "S", "SS", "NG", "J", "C", "K", "T", "P", "H"]

/-- The syllable that a name spells. -/
def syllableNamed? (name : String) : Option Nat := do
  let sounds ← Text.after? "HANGUL SYLLABLE ".toList name.toList
  syllableStarts.zipIdx.findSome? fun (start, i) => do
    let rest ← Text.after? start.toList sounds
    syllableMiddles.zipIdx.findSome? fun (middle, j) => do
      let rest ← Text.after? middle.toList rest
      let k ← syllableEnds.idxOf? (String.ofList rest)
      return 0xAC00 + (21 * i + j) * 28 + k

/-- The character of a name, by code point. -/
def characterNamed? (name : String) : Option Nat :=
  let capitals := String.ofList (name.toList.map Char.toUpper)
  syllableNamed? name <|> ideographNamed? name <|> numberedName? capitals <|>
    aliasedName? capitals <|> listedName? capitals

end PatchReview.Pattern
