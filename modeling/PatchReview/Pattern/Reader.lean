import PatchReview.Pattern.CharacterName
import PatchReview.Pattern.Matcher
import PatchReview.Text.Identifier
import PatchReview.Text.StandIn

/-! Reading regular expressions.

A pattern is first cut into tokens, a backslash together with the character behind it. A
backslash with nothing behind it is a fault as soon as it comes next (`moveTo`). Options given
at the very start hold for the whole pattern, options of a group within it. Reading fails with
the first fault. Alternatives that start alike are merged up to where they differ, and
alternatives of single characters become a set.

The readers of sequences and of alternatives call each other; each call takes a token or goes
from alternatives to a sequence, so twice the number of tokens bounds their depth. -/
namespace PatchReview.Pattern

open Text
open PatchReview.Text.Surrogate (code)

variable [StandIns]

/-- What is wrong with a pattern. -/
inductive Fault where
  | cutOff
  | badEscape
  | unterminatedSet
  | badRange
  | nothingToRepeat
  | repeatedRepeat
  | emptyRepeatRange
  /-- A repeat count beyond what can be counted. -/
  | hugeRepeat
  | unclosedGroup
  | unopenedGroup
  | unclosedComment
  | unknownExtension
  | badName
  | repeatedName
  | unknownGroup
  | openGroup
  | tooManyBranches
  | badOptions
  | misplacedOptions
  /-- Characters are to be looked up over ASCII alone and over all scripts. -/
  | clashingTables
  | looseWidth
  /-- A repeat count with too many digits to be read. -/
  | longCount (digits : Nat)
  /-- Groups within groups beyond what can be followed. -/
  | tooDeep
  deriving DecidableEq, Repr

def Fault.message : Fault → String
  | cutOff => "the pattern ends in the middle of an element"
  | badEscape => "bad escape"
  | unterminatedSet => "unterminated character set"
  | badRange => "bad character range"
  | nothingToRepeat => "nothing to repeat"
  | repeatedRepeat => "multiple repeat"
  | emptyRepeatRange => "min repeat greater than max repeat"
  | hugeRepeat => "the repetition number is too large"
  | unclosedGroup => "missing ), unterminated subpattern"
  | unopenedGroup => "unbalanced parenthesis"
  | unclosedComment => "missing ), unterminated comment"
  | unknownExtension => "unknown extension"
  | badName => "bad group name"
  | repeatedName => "redefinition of group name"
  | unknownGroup => "unknown group"
  | openGroup => "cannot refer to an open group"
  | tooManyBranches => "conditional backref with more than two branches"
  | badOptions => "bad inline flags"
  | misplacedOptions => "global flags not at the start of the expression"
  | clashingTables => "ASCII and UNICODE flags are incompatible"
  | looseWidth => "look-behind requires fixed-width pattern"
  | longCount digits => s!"repeat count of {digits} digits"
  | tooDeep => "maximum recursion depth exceeded"

/-- A character, alone or behind a backslash. -/
inductive Token where
  | plain (c : Char)
  | escaped (c : Char)
  /-- A backslash with nothing behind it. -/
  | backslash
  deriving DecidableEq, Repr

def tokens : List Char → List Token
  | [] => []
  | '\\' :: c :: s => .escaped c :: tokens s
  | '\\' :: [] => [.backslash]
  | c :: s => .plain c :: tokens s

/-- The characters of a token. -/
def Token.chars : Token → List Char
  | plain c => [c]
  | escaped c => ['\\', c]
  | backslash => ['\\']

/-- The options in force at some point. -/
structure Options where
  ignoreCase : Bool
  multiline : Bool
  dotAll : Bool
  verbose : Bool
  ascii : Bool
  /-- Repetitions are not allowed. -/
  template : Bool
  deriving DecidableEq, Repr

def Options.none : Options := ⟨false, false, false, false, false, false⟩

def Options.folding (o : Options) : Folding :=
  if o.ignoreCase then if o.ascii then .ascii else .unicode else .exact

/-- A character as these options compare it. -/
def Options.character (o : Options) (n : Nat) : Node := .code (o.folding.ofCode n) n

/-- A set of characters as these options compare them. -/
def Options.characters (o : Options) (negated : Bool) (items : List SetItem) : Node :=
  .set (o.folding.ofItems items) negated items

/-- What reading a pattern goes along with. -/
structure ReadState where
  rest : List Token
  /-- The options that hold outside all groups. -/
  options : Options
  /-- Whether tables over all scripts were asked for. -/
  wideTables : Bool
  /-- How many groups have been opened. -/
  groups : Nat
  /-- The widths of the groups that are closed. -/
  closed : List (Nat × Nat × Option Nat)
  names : List (String × Nat)
  /-- Within a look behind, the number of groups opened before it. -/
  outerGroups : Option Nat
  /-- Groups by number that a condition asks for. -/
  wanted : List Nat
  /-- A fault in a pattern that can be read, which counts only if nothing else is wrong. -/
  late : Option Fault
  /-- How many brackets enclose the place. -/
  depth : Nat

/-- Reading that may fail. -/
abbrev PatternReader := StateT ReadState (Except Fault)

def failWith {α : Type} (e : Fault) : PatternReader α := throw e

/-- Notes a fault that counts only if nothing else is wrong. -/
def failLater (e : Fault) : PatternReader Unit :=
  modify fun s => { s with late := s.late <|> some e }

def peek : PatternReader (Option Token) := return (← get).rest.head?

/-- Goes on at some tokens; there must be something behind a backslash. -/
def moveTo (rest : List Token) : PatternReader Unit := do
  if rest.head? = some .backslash then failWith .cutOff
  modify fun s => { s with rest := rest }

def advance : PatternReader Unit := do moveTo (← get).rest.tail

/-- The next token, taken. -/
def next : PatternReader (Option Token) := do
  let t ← peek
  advance
  return t

/-- Takes a plain character if it comes next. -/
def accept (c : Char) : PatternReader Bool := do
  if (← peek) = some (.plain c) then
    advance
    return true
  return false

/-- Up to `n` plain characters that pass a test, taken. -/
def takeUpTo (test : Char → Bool) : Nat → PatternReader (List Char)
  | 0 => return []
  | n + 1 => do
    match ← peek with
    | some (.plain c) =>
      if test c then
        advance
        return c :: (← takeUpTo test n)
      return []
    | _ => return []

/-- The text up to a closing character and what is behind it; it must not be empty. -/
def cutAt (close : Char) : List Token → Option (List Char × List Token)
  | [] => none
  | .plain c :: rest =>
    if c == close then some ([], rest) else (cutAt close rest).map fun (s, r) => (c :: s, r)
  | t :: rest => (cutAt close rest).map fun (s, r) => (t.chars ++ s, r)

/-- A name up to a closing character. -/
def nameUntil (close : Char) : PatternReader String := do
  match cutAt close (← get).rest with
  | none | some ([], _) => failWith .badName
  | some (name, rest) =>
    moveTo rest
    return String.ofList name

/-! ### Escapes -/

def isOctal (c : Char) : Bool := '0' ≤ c && c ≤ '7'

def octalValue (digits : List Char) : Nat := digits.foldl (fun n c => 8 * n + (c.toNat - 48)) 0

/-- A code point of exactly `width` hexadecimal digits. -/
def hexEscape (width : Nat) : PatternReader Nat := do
  let digits ← takeUpTo isHexDigit width
  if digits.length < width then failWith .badEscape
  let n := hexRunValue digits
  if 0x110000 ≤ n then failWith .badEscape
  return n

/-- A code point by its name in braces. -/
def namedEscape : PatternReader Nat := do
  if !(← accept '\x7b') then failWith .badEscape
  match characterNamed? (← nameUntil '\x7d') with
  | some n => return n
  | none => failWith .badEscape

def octalCode (digits : List Char) : PatternReader Nat :=
  if 0o377 < octalValue digits then failWith .badEscape else return octalValue digits

/-- The characters that a letter behind a backslash stands for everywhere. -/
def controlEscapes : List (Char × Nat) :=
  [('a', 7), ('f', 12), ('n', 10), ('r', 13), ('t', 9), ('v', 11), ('\\', 92)]

/-- The class that a letter behind a backslash stands for. -/
def categoryEscape? (c : Char) : Option (Category × Bool) :=
  match c with
  | 'd' => some (.digit, false)
  | 'D' => some (.digit, true)
  | 's' => some (.space, false)
  | 'S' => some (.space, true)
  | 'w' => some (.word, false)
  | 'W' => some (.word, true)
  | _ => none

/-- A code point that is written the same way inside and outside of sets. -/
def codeEscape (c : Char) : PatternReader Nat :=
  match controlEscapes.lookup c, c with
  | some n, _ => return n
  | none, 'x' => hexEscape 2
  | none, 'u' => hexEscape 4
  | none, 'U' => hexEscape 8
  | none, 'N' => namedEscape
  | none, _ => if c.isAlphanum then failWith .badEscape else return code c

/-- An escape within a set. -/
def setEscape (o : Options) (c : Char) : PatternReader SetItem := do
  match categoryEscape? c with
  | some (category, negated) => return .category category o.ascii negated
  | none =>
    if c == 'b' then return .code 8
    else if isOctal c then return .code (← octalCode (c :: (← takeUpTo isOctal 2)))
    else return .code (← codeEscape c)

/-- Refuses a group that cannot be referred to from within a look behind. -/
def checkOuter (group : Nat) : PatternReader Unit := do
  let s ← get
  match s.outerGroups with
  | none => return
  | some outer =>
    if (s.closed.lookup group).isNone then failWith .openGroup
    if outer ≤ group then failWith .openGroup

/-- A reference to a group that is closed. -/
def backReference (o : Options) (group : Nat) : PatternReader Node := do
  let s ← get
  if s.groups < group ∨ group = 0 then failWith .unknownGroup
  match s.closed.lookup group with
  | none => failWith .openGroup
  | some width =>
    checkOuter group
    return .back o.folding group width

/-- An escape that starts with a digit other than zero: three octal digits make a character,
one digit or two refer to a group. -/
def digitEscape (o : Options) (c : Char) : PatternReader Node := do
  match ← takeUpTo Char.isDigit 1 with
  | [d] =>
    if isOctal c ∧ isOctal d then
      match ← takeUpTo isOctal 1 with
      | [e] => return o.character (← octalCode [c, d, e])
      | _ => backReference o (digitsValue [c, d])
    else backReference o (digitsValue [c, d])
  | _ => backReference o (digitsValue [c])

/-- The condition that a letter behind a backslash stands for. -/
def anchorEscape? (o : Options) (c : Char) : Option Anchor :=
  match c with
  | 'A' => some .textStart
  | 'Z' => some .textEnd
  | 'b' => some (.wordEdge o.ascii false)
  | 'B' => some (.wordEdge o.ascii true)
  | _ => none

/-- An escape outside of sets. -/
def escape (o : Options) (c : Char) : PatternReader Node := do
  match anchorEscape? o c, categoryEscape? c with
  | some a, _ => return .anchor a
  | none, some (category, negated) =>
    return .set .exact false [.category category o.ascii negated]
  | none, none =>
    if c == '0' then return o.character (octalValue (← takeUpTo isOctal 2))
    else if c.isDigit then digitEscape o c
    else return o.character (← codeEscape c)

/-! ### Sets -/

def setElement (o : Options) : Token → PatternReader SetItem
  | .plain c => return .code (code c)
  | .escaped c => setEscape o c
  | .backslash => failWith .cutOff

/-- The item that starts with a token: alone, or a range with what is behind a hyphen. The
flag says whether the set has ended. -/
def setItem (o : Options) (t : Token) : PatternReader (List SetItem × Bool) := do
  let first ← setElement o t
  if !(← accept '-') then return ([first], false)
  match ← next with
  | none => failWith .unterminatedSet
  | some (.plain ']') => return ([first, .code '-'.toNat], true)
  | some u =>
    match first, ← setElement o u with
    | .code low, .code high =>
      if high < low then failWith .badRange else return ([.range low high], false)
    | _, _ => failWith .badRange

/-- The items up to the closing bracket, which right at the start is an item itself. -/
def setItems (o : Options) : Nat → List SetItem → PatternReader (List SetItem)
  | 0, _ => failWith .unterminatedSet
  | bound + 1, items => do
    match ← next with
    | none => failWith .unterminatedSet
    | some t =>
      if t = .plain ']' ∧ items ≠ [] then return items
      let (found, ended) ← setItem o t
      if ended then return items ++ found else setItems o bound (items ++ found)

/-- A set behind its opening bracket; one character alone is no set. -/
def readSet (o : Options) : PatternReader Node := do
  let negated ← accept '^'
  let items ← setItems o ((← get).rest.length + 1) []
  match items.eraseDups with
  | [.code n] => return if negated then .otherCode (o.folding.ofCode n) n else o.character n
  | items => return o.characters negated items

/-! ### Repetition -/

/-- One more than the largest repeat count. -/
def repeatLimit : Nat := 4294967295

def countOf (digits : List Char) : PatternReader (Option Nat) :=
  if digits.isEmpty then return none
  else
    match readNatural digits with
    | .error _ => failWith (.longCount digits.length)
    | .ok n => if repeatLimit ≤ n then failWith .hugeRepeat else return some n

/-- The bounds in braces behind the opening one; nothing is taken if they are none. -/
def repeatBounds? : PatternReader (Option (Nat × Option Nat)) := do
  let start ← get
  if (← peek) = some (.plain '\x7d') then return none
  let length := start.rest.length
  let low ← takeUpTo Char.isDigit length
  let high ← if ← accept ',' then takeUpTo Char.isDigit length else pure low
  if ← accept '\x7d' then
    let least ← countOf low
    let most ← countOf high
    match most with
    | some m => if m < least.getD 0 then failWith .emptyRepeatRange
    | none => pure ()
    return some (least.getD 0, most)
  moveTo start.rest
  return none

/-- Repeats the last of the nodes read so far, which come in reverse. -/
def repeatLast (o : Options) (least : Nat) (most : Option Nat) :
    List Node → PatternReader (List Node)
  | [] | .anchor _ :: _ => failWith .nothingToRepeat
  | .repeated .. :: _ => failWith .repeatedRepeat
  | node :: nodes => do
    if o.template then failLater .badOptions
    let body := match node with | .group .plain body => body | node => [node]
    let greed ← if ← accept '?' then pure Greed.lazy else if ← accept '+' then pure .possessive
      else pure .greedy
    return .repeated greed least most body :: nodes

/-! ### Alternatives -/

/-- Whether two nodes are the same element without parts of its own. -/
def Node.sameElement : Node → Node → Bool
  | .code f n, .code g m | .otherCode f n, .otherCode g m => f = g && n = m
  | .any a, .any b => a = b
  | .set f a xs, .set g b ys => f = g && a = b && xs = ys
  | .anchor a, .anchor b => a = b
  | .back f n _, .back g m _ => f = g && n = m
  | _, _ => false

/-- The first element of all alternatives, if they share it. -/
def sharedFirst? : List Sequence → Option Node
  | (node :: _) :: rest =>
    if rest.all fun body => (body.head?.map (·.sameElement node)).getD false
    then some node else none
  | _ => none

/-- The elements with which all alternatives start, and what is left of each. -/
def splitShared : Nat → List Sequence → Sequence × List Sequence
  | 0, bodies => ([], bodies)
  | bound + 1, bodies =>
    match sharedFirst? bodies with
    | none => ([], bodies)
    | some node =>
      let (shared, bodies) := splitShared bound (bodies.map List.tail)
      (node :: shared, bodies)

/-- The characters of an alternative that is a single character or a set. -/
def charactersOf? : Sequence → Option (List SetItem)
  | [.code _ n] => some [.code n]
  | [.set _ false items] => some items
  | _ => none

def alternatives (o : Options) (bodies : List Sequence) : Sequence :=
  match bodies with
  | [body] => body
  | bodies =>
    let (shared, bodies) := splitShared bodies.flatten.length bodies
    match bodies.mapM charactersOf? with
    | some items => shared ++ [o.characters false items.flatten.eraseDups]
    | none => shared ++ [.choice bodies]

/-- Groups that are only brackets are opened up. -/
def openPlain (nodes : List Node) : Sequence :=
  nodes.flatMap fun node => match node with | .group .plain body => body | node => [node]

/-! ### Options -/

inductive OptionName where
  | ignoreCase
  | multiline
  | dotAll
  | verbose
  | ascii
  | wide
  | template
  deriving DecidableEq, Repr

def optionNamed? : Token → Option OptionName
  | .plain 'i' => some .ignoreCase
  | .plain 'm' => some .multiline
  | .plain 's' => some .dotAll
  | .plain 'x' => some .verbose
  | .plain 'a' => some .ascii
  | .plain 'u' => some .wide
  | .plain 't' => some .template
  | _ => none

def Options.change (value : Bool) (o : Options) : OptionName → Options
  | .ignoreCase => { o with ignoreCase := value }
  | .multiline => { o with multiline := value }
  | .dotAll => { o with dotAll := value }
  | .verbose => { o with verbose := value }
  | .ascii => { o with ascii := value }
  | .wide => { o with ascii := !value }
  | .template => { o with template := value }

/-- Option letters from a token on, up to one that is none, which is taken as well. -/
def optionLetters : Nat → Token → PatternReader (List OptionName × Token)
  | 0, _ => failWith .badOptions
  | bound + 1, t => do
    match optionNamed? t with
    | none => return ([], t)
    | some name =>
      match ← next with
      | none => failWith .badOptions
      | some t =>
        let (names, last) ← optionLetters bound t
        return (name :: names, last)

/-- The options that a group turns on and off. -/
structure OptionChange where
  on : List OptionName
  off : List OptionName

/-- Options in brackets, from their first token on: those of a group behind a colon, or
nothing if they end at the bracket and hold for the whole pattern. -/
def optionChange (first : Token) : PatternReader (List OptionName ⊕ OptionChange) := do
  let bound := (← get).rest.length + 1
  let (on, last) ← optionLetters bound first
  if on.contains .ascii ∧ on.contains .wide then failWith .badOptions
  if last = .plain ')' then return .inl on
  if on.contains .template then failWith .badOptions
  if last = .plain ':' then return .inr ⟨on, []⟩
  if last ≠ .plain '-' then failWith .badOptions
  match ← next with
  | none => failWith .badOptions
  | some t =>
    let (off, last) ← optionLetters bound t
    if last ≠ .plain ':' ∨ off = [] then failWith .badOptions
    if off.any [.ascii, .wide, .template].contains then failWith .badOptions
    if on.any off.contains then failWith .badOptions
    return .inr ⟨on, off⟩

def OptionChange.apply (change : OptionChange) (o : Options) : Options :=
  change.off.foldl (·.change false ·) (change.on.foldl (·.change true ·) o)

/-- Options for the whole pattern. -/
def setGlobal (names : List OptionName) : PatternReader Unit :=
  modify fun s =>
    { s with
      options := names.foldl (fun o name => if name = .wide then o else o.change true name)
        s.options
      wideTables := s.wideTables || names.contains .wide }

/-! ### Groups and sequences -/

/-- Opens a capturing group. -/
def openGroup (name : Option String) : PatternReader Nat := do
  let s ← get
  let index := s.groups + 1
  match name with
  | none => set { s with groups := index }
  | some name =>
    if (s.names.lookup name).isSome then failWith .repeatedName
    set { s with groups := index, names := (name, index) :: s.names }
  return index

def closeGroup (index : Nat) (body : Sequence) : PatternReader Unit :=
  modify fun s => { s with closed := (index, widths body) :: s.closed }

def closeBracket : PatternReader Unit := do
  if !(← accept ')') then failWith .unclosedGroup

/-- One more than the largest number that a group can have. -/
def groupLimit : Nat := 1073741823

/-- The group that a condition asks for: by name, or by a number that is looked up later. -/
def conditionGroup : PatternReader Nat := do
  let name ← nameUntil ')'
  let group ←
    if isIdentifier name then
      match (← get).names.lookup name with
      | some group => pure group
      | none => failWith .unknownGroup
    else
      match readInteger name with
      | .ok n =>
        if n ≤ 0 then failWith .badName
        if groupLimit ≤ n then failWith .unknownGroup
        modify fun s => { s with wanted := n.toNat :: s.wanted }
        pure n.toNat
      | .error _ => failWith .badName
  checkOuter group
  return group

/-- A name for a group. -/
def groupName (close : Char) : PatternReader String := do
  let name ← nameUntil close
  if isIdentifier name then return name else failWith .badName

/-- The part of a comment behind its closing bracket. -/
def skipComment : List Token → Option (List Token)
  | [] => none
  | .plain ')' :: rest => some rest
  | _ :: rest => skipComment rest

/-- What is behind a comment that ends with its line. -/
def skipLine : List Token → List Token
  | [] => []
  | [.backslash] => [.backslash]
  | .plain '\n' :: rest => rest
  | _ :: rest => skipLine rest

/-- The greatest width that a look behind can have. -/
def widthLimit : Nat := 4294967294

/-- The fixed width of a look behind. -/
def fixedWidth (body : Sequence) : PatternReader Nat := do
  let (low, high) := widths body
  if high ≠ some low ∨ widthLimit < low then failLater .looseWidth
  return low

/-- The most brackets that may enclose a place. -/
def depthLimit : Nat := 490

/-- Reads what stands in brackets. -/
def withinBrackets {α : Type} (reader : PatternReader α) : PatternReader α := do
  let depth := (← get).depth
  if depthLimit ≤ depth then failWith .tooDeep
  modify fun s => { s with depth := depth + 1 }
  let result ← reader
  modify fun s => { s with depth := depth }
  return result

/-- The nodes for the characters that stand for more than themselves, sets and groups apart. -/
def specialNode? (o : Options) : Char → Option Node
  | '.' => some (.any o.dotAll)
  | '^' => some (.anchor (if o.multiline then .lineStart else .textStart))
  | '$' => some (.anchor (if o.multiline then .lineEnd else .lastLineEnd))
  | _ => none

/-- The bounds that a sign of repetition stands for; an opening brace that starts none is a
character. -/
def signBounds? : Char → PatternReader (Option (Nat × Option Nat))
  | '*' => return some (0, none)
  | '+' => return some (1, none)
  | '?' => return some (0, some 1)
  | _ => repeatBounds?

mutual

/-- Alternatives up to a closing bracket or the end. `outer` says whether they stand outside
all groups. -/
def readAlternatives : Nat → Bool → Options → PatternReader Sequence
  | 0, _, _ => failWith .cutOff
  | bound + 1, outer, o => do
    let first ← readSequence bound outer o []
    let state ← get
    let o := if outer then state.options else o
    let bodies ← readFurther bound o
    return alternatives o (first :: bodies)

/-- The alternatives behind a bar. -/
def readFurther : Nat → Options → PatternReader (List Sequence)
  | 0, _ => failWith .cutOff
  | bound + 1, o => do
    if !(← accept '|') then return []
    let body ← readSequence bound false o []
    return body :: (← readFurther bound o)

/-- A sequence up to a bar, a closing bracket or the end, behind the nodes read so far, which
come in reverse. `outer` says whether options for the whole pattern may still come. -/
def readSequence : Nat → Bool → Options → List Node → PatternReader Sequence
  | 0, _, _, _ => failWith .cutOff
  | bound + 1, outer, o, nodes => do
    match ← peek with
    | none | some (.plain '|') | some (.plain ')') => return openPlain nodes.reverse
    | some t =>
      advance
      match t with
      | .escaped c => readSequence bound outer o ((← escape o c) :: nodes)
      | .backslash => failWith .cutOff
      | .plain c =>
        if o.verbose ∧ isAsciiBlank c then readSequence bound outer o nodes
        else if o.verbose ∧ c = '#' then
          moveTo (skipLine (← get).rest)
          readSequence bound outer o nodes
        else if c = '[' then readSequence bound outer o ((← readSet o) :: nodes)
        else if c = '(' then readGroup bound outer o nodes
        else if c ∈ ['*', '+', '?', '\x7b'] then
          match ← signBounds? c with
          | some (least, most) =>
            let nodes ← repeatLast o least most nodes
            readSequence bound outer o nodes
          | none => readSequence bound outer o (o.character (code c) :: nodes)
        else
          let node := (specialNode? o c).getD (o.character (code c))
          readSequence bound outer o (node :: nodes)

/-- A group behind its opening bracket, and the rest of the sequence. -/
def readGroup : Nat → Bool → Options → List Node → PatternReader Sequence
  | 0, _, _, _ => failWith .cutOff
  | bound + 1, outer, o, nodes => do
    let continueWith (node : Node) := readSequence bound outer o (node :: nodes)
    let capture (name : Option String) : PatternReader Sequence := do
      let index ← openGroup name
      let body ← withinBrackets (readAlternatives bound false o)
      closeBracket
      closeGroup index body
      continueWith (.group (.capturing index) body)
    let look (make : Sequence → PatternReader Node) : PatternReader Sequence := do
      let body ← withinBrackets (readAlternatives bound false o)
      closeBracket
      continueWith (← make body)
    if !(← accept '?') then capture none
    else
      match ← next with
      | none => failWith .cutOff
      | some (.plain 'P') =>
        match ← next with
        | none => failWith .cutOff
        | some (.plain '<') => capture (some (← groupName '>'))
        | some (.plain '=') =>
          let name ← groupName ')'
          match (← get).names.lookup name with
          | none => failWith .unknownGroup
          | some group => continueWith (← backReference o group)
        | some _ => failWith .unknownExtension
      | some (.plain ':') => look fun body => return .group .plain body
      | some (.plain '>') => look fun body => return .atomic body
      | some (.plain '#') =>
        match skipComment (← get).rest with
        | none => failWith .unclosedComment
        | some rest =>
          moveTo rest
          readSequence bound outer o nodes
      | some (.plain '=') => look fun body => return .ahead false body
      | some (.plain '!') => look fun body => return .ahead true body
      | some (.plain '<') =>
        let negated ←
          match ← next with
          | some (.plain '=') => pure false
          | some (.plain '!') => pure true
          | none => failWith .cutOff
          | some _ => failWith .unknownExtension
        let outerGroups := (← get).outerGroups
        modify fun s => { s with outerGroups := some (outerGroups.getD (s.groups + 1)) }
        let body ← withinBrackets (readAlternatives bound false o)
        modify fun s => { s with outerGroups := outerGroups }
        closeBracket
        continueWith (.behind negated (← fixedWidth body) body)
      | some (.plain '(') =>
        let group ← conditionGroup
        let yes ← withinBrackets (readSequence bound false o [])
        let branched ← accept '|'
        let no ← if branched then withinBrackets (readSequence bound false o []) else pure []
        if (← peek) = some (.plain '|') then failWith .tooManyBranches
        closeBracket
        continueWith (.conditional group yes no)
      | some t =>
        if (optionNamed? t).isNone ∧ t ≠ .plain '-' then failWith .unknownExtension
        match ← optionChange t with
        | .inl names =>
          if !outer ∨ !nodes.isEmpty then failWith .misplacedOptions
          setGlobal names
          readSequence bound outer (← get).options nodes
        | .inr change =>
          let body ← withinBrackets (readAlternatives bound false (change.apply o))
          closeBracket
          continueWith (.group .scoped body)

end

/-- A whole pattern. -/
def readPattern : PatternReader Search := do
  moveTo (← get).rest
  let pattern ← readAlternatives (2 * (← get).rest.length + 2) true .none
  let s ← get
  if s.options.ascii ∧ s.wideTables then failWith .clashingTables
  if !s.rest.isEmpty then failWith .unopenedGroup
  if s.wanted.any (s.groups < ·) then failWith .unknownGroup
  match s.late with
  | some e => failWith e
  | none => return .ofSequence s.options.ascii pattern

/-- The search that a pattern describes. -/
def read (s : String) : Except Fault Search := do
  let start : ReadState := ⟨tokens s.toList, .none, false, 0, [], [], none, [], none, 0⟩
  let (search, _) ← readPattern.run start
  return search

end PatchReview.Pattern
