import PatchReview.Moment
import PatchReview.Text.Numeral
import PatchReview.Text.Quoted
import PatchReview.Text.Utf8

/-! What can go wrong, by cause.

A `SettingsError` lies in the settings or in a rule and is reported to whoever wrote them; a
`Failure` is any reason for which an operation ends without a result. Each cause has one
wording, in `message`. -/
namespace PatchReview

variable [Text.StandIns]

/-- What is wrong with an integer, in words. -/
def Text.NumeralError.message : Text.NumeralError → String
  | .malformed text =>
    "invalid literal for int() with base 10: " ++
      String.ofList ((Text.quotedChars text.toList).take 200)
  | .tooLong digits =>
    s!"Exceeds the limit ({Text.digitLimit} digits) for integer string conversion: value has " ++
      s!"{digits} digits; use sys.set_int_max_str_digits() to increase the limit"
  | .unwritable =>
    s!"Exceeds the limit ({Text.digitLimit} digits) for integer string conversion; " ++
      "use sys.set_int_max_str_digits() to increase the limit"

/-- Where a text is not UTF-8, in words. -/
def Text.Utf8.DecodeError.message (e : Text.Utf8.DecodeError) : String :=
  let place :=
    if e.size = 1 then s!"byte 0x{String.ofList (Text.hexDigits e.byte 2)} in position {e.position}"
    else s!"bytes in position {e.position}-{e.position + e.size - 1}"
  let fault :=
    match e.fault with
    | .startByte => "invalid start byte"
    | .continuationByte => "invalid continuation byte"
    | .cutOff => "unexpected end of data"
  s!"'utf-8' codec can't decode {place}: {fault}"

/-- Why a text cannot be written as UTF-8, in words. -/
def Text.Utf8.EncodeError.message (e : Text.Utf8.EncodeError) : String :=
  let place :=
    if e.count = 1 then
      s!"character '\\u{String.ofList (Text.hexDigits e.half 4)}' in position {e.position}"
    else s!"characters in position {e.position}-{e.position + e.count - 1}"
  s!"'utf-8' codec can't encode {place}: surrogates not allowed"

/-- Why a file cannot be read. -/
inductive FileError where
  | notFound (path : String)
  | isDirectory (path : String)
  | notADirectory (path : String)
  | alreadyExists (path : String)
  | nameTooLong (path : String)
  /-- The path holds a NUL, which no path can. -/
  | embeddedNull
  /-- The path holds what UTF-8 cannot. -/
  | notEncodable (e : Text.Utf8.EncodeError)
  | notText (e : Text.Utf8.DecodeError)
  deriving DecidableEq, Repr

def FileError.message : FileError → String
  | .notFound path => s!"[Errno 2] No such file or directory: {Text.quoted path}"
  | .isDirectory path => s!"[Errno 21] Is a directory: {Text.quoted path}"
  | .notADirectory path => s!"[Errno 20] Not a directory: {Text.quoted path}"
  | .alreadyExists path => s!"[Errno 17] File exists: {Text.quoted path}"
  | .nameTooLong path => s!"[Errno 36] File name too long: {Text.quoted path}"
  | .embeddedNull => "embedded null byte"
  | .notEncodable e => e.message
  | .notText e => e.message

/-- What is wrong with settings or with a rule. -/
inductive SettingsError where
  | reviewerMissing
  | guidelinesNotText
  | notTable (field : String)
  | notTables (field : String)
  | notTexts (field : String)
  /-- None of the choices, which are given in order. -/
  | notChoice (field : String) (choices : List String)
  | notInteger (field : String)
  | notPositive (field : String)
  | notBoolean (field : String)
  | ruleIncomplete
  /-- The pattern of a rule cannot be read, for the reason given. -/
  | rulePattern (id reason : String)
  | ruleGlobs (id : String)
  | inlineRules
  | includedRules
  | unknownReviewer (name : String) (available : List String)
  | fileMissing (path : String)
  | malformedFile (path reason : String)
  | unreadableFile (path : String) (e : FileError)
  deriving DecidableEq, Repr

def SettingsError.message : SettingsError → String
  | reviewerMissing => "provider must be a non-empty string"
  | guidelinesNotText => "guidelines_file must be a string"
  | notTable field => s!"{field} must be a table/object"
  | notTables field => s!"{field} must be a list of tables"
  | notTexts field => s!"{field} must be a list of strings"
  | notChoice field choices =>
    s!"{field} must be one of: " ++ ", ".intercalate choices
  | notInteger field => s!"{field} must be an integer"
  | notPositive field => s!"{field} must be > 0"
  | notBoolean field => s!"{field} must be a boolean"
  | ruleIncomplete => "Rule must have non-empty id and pattern"
  | rulePattern id reason => s!"Rule {id} has an invalid pattern: {reason}"
  | ruleGlobs id => s!"Rule {id}: applies_to must be a list of globs"
  | inlineRules => "rules.inline must be a list of tables"
  | includedRules => "rules.include must be a list of glob patterns"
  | unknownReviewer name available =>
    s!"Unknown provider: {name} (available: " ++ ", ".intercalate available ++ ")"
  | fileMissing path => s!"Config file does not exist: {path}"
  | malformedFile path reason => s!"Invalid TOML in {path}: {reason}"
  | unreadableFile path e => s!"Failed to read config file {path}: {e.message}"

/-- Why a diff file cannot be reviewed. -/
inductive DiffFileError where
  | notFound (path : String)
  | unreadable (path : String) (e : FileError)
  deriving DecidableEq, Repr

def DiffFileError.message : DiffFileError → String
  | notFound path => s!"Diff file not found: {path}"
  | unreadable path e => s!"Failed to read diff file: {path}: {e.message}"

/-- Why an operation has no result. -/
inductive Failure where
  | settings (e : SettingsError)
  | numeral (e : Text.NumeralError)
  /-- A text that UTF-8 cannot hold was to be written. -/
  | notEncodable (e : Text.Utf8.EncodeError)
  /-- A number that has no integer part: an infinity, or no number at all. -/
  | infiniteInteger
  | undefinedInteger
  /-- A value of a kind from which no integer can be taken. -/
  | noInteger (kind : String)
  /-- A value of a kind that has no fields. -/
  | noFields (kind : String)
  /-- A value of a kind that has no items. -/
  | noItems (kind : String)
  /-- A value of a kind that is no text where one is searched. -/
  | noText (kind : String)
  /-- Prompts were given a field that they do not have. -/
  | unknownPrompt (name : String)
  /-- An item that is no pair of key and value: of a kind without a length, or of another length. -/
  | noPair (index : Nat) (length : Option Nat)
  /-- A key that cannot be one, by its kind. -/
  | noKey (kind : String)
  /-- A path pattern that cannot be read. -/
  | pathPattern (reason : String)
  /-- A rule's pattern that asks for both character tables at once. -/
  | clashingTables
  /-- A rule's pattern with a repeat count that is out of range. -/
  | hugeRepeat
  /-- What was to be read is nested beyond what can be followed. -/
  | tooDeep
  /-- The same in JSON, and whether it came to light at a table. -/
  | jsonTooDeep (table : Bool)
  /-- A group of a rule's pattern came to end before it started. -/
  | crossedGroup
  /-- A share was to be taken of nothing. -/
  | divisionByZero
  /-- A share that is beyond all numbers of the binary format. -/
  | hugeShare
  /-- A moment stands where JSON has no form for it. -/
  | unwritable (kind : String)
  | unknownFormat (name : String)
  /-- A whole run was asked for in a format that does not exist. -/
  | unknownRunFormat (name : String)
  /-- A number in the report of a whole run is too long to be written. -/
  | runReport (e : Text.NumeralError)
  | diffFile (e : DiffFileError)
  /-- A file cannot be written. -/
  | file (e : FileError)
  /-- The reviewer gave up. -/
  | reviewer (message : String)
  /-- The work inside a scope was broken off. -/
  | brokenOff (message : String)
  deriving DecidableEq, Repr

def Failure.message : Failure → String
  | settings e => e.message
  | numeral e => e.message
  | notEncodable e => e.message
  | infiniteInteger => "cannot convert float infinity to integer"
  | undefinedInteger => "cannot convert float NaN to integer"
  | noInteger kind =>
    s!"int() argument must be a string, a bytes-like object or a real number, not '{kind}'"
  | noFields kind => s!"'{kind}' object has no attribute 'get'"
  | noItems kind => s!"'{kind}' object is not iterable"
  | noText kind => s!"expected string or bytes-like object, got '{kind}'"
  | unknownPrompt name => s!"PromptsConfig.__init__() got an unexpected keyword argument '{name}'"
  | noPair index none =>
    s!"cannot convert dictionary update sequence element #{index} to a sequence"
  | noPair index (some length) =>
    s!"dictionary update sequence element #{index} has length {length}; 2 is required"
  | noKey kind => s!"unhashable type: '{kind}'"
  | pathPattern reason => reason
  | clashingTables => "ASCII and UNICODE flags are incompatible"
  | hugeRepeat => "the repetition number is too large"
  | tooDeep => "maximum recursion depth exceeded"
  | jsonTooDeep table =>
    let place := if table then "object" else "array"
    s!"maximum recursion depth exceeded while decoding a JSON {place} from a unicode string"
  | crossedGroup => "The span of capturing group is wrong, please report a bug for the re module."
  | divisionByZero => "division by zero"
  | hugeShare => "integer division result too large for a float"
  | unwritable kind => s!"Object of type {kind} is not JSON serializable"
  | unknownFormat name | unknownRunFormat name => s!"Unknown output format: {name}"
  | runReport e => e.message
  | diffFile e => e.message
  | file e => e.message
  | reviewer message | brokenOff message => message

/-- An operation that may fail. -/
abbrev Outcome := Except Failure

end PatchReview
