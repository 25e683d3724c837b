import PatchReview.Pattern.Repetition

/-! Matching regular expressions.

A matcher goes on from a place by calling what follows with every place it can reach, in
order of preference, until something succeeds. -/
namespace PatchReview.Pattern

/-- A character that passes a test. -/
def takeOne (lead : Lead) (test : CharacterTest) : Matcher where
  lead := lead
  run s p t k :=
    match s.next? p with
    | some c => if test.holds c then k (p + 1) t else .error t
    | none => .error t

/-- Word characters on exactly one side; an empty text has no edges. -/
def Subject.isWordEdge (s : Subject) (ascii : Bool) (p : Place) : Bool :=
  let word (c : Option Nat) : Bool := (c.map (Category.word.has ascii)).getD false
  word (s.last? p) != word (s.next? p)

def Anchor.holds (s : Subject) (p : Place) : Anchor → Bool
  | .textStart => p == 0
  | .lineStart => p == 0 || s.last? p == some newline
  | .textEnd => s.size ≤ p
  | .lineEnd => s.size ≤ p || s.next? p == some newline
  | .lastLineEnd => s.size ≤ p || p + 1 == s.size && s.next? p == some newline
  | .wordEdge ascii negated => !s.isEmpty && s.isWordEdge ascii p != negated

/-- The characters of a captured text, one by one. -/
def takeText (folding : Folding) (s : Subject) : List Nat → Continue → Continue
  | [], k, p, t => k p t
  | d :: text, k, p, t =>
    match s.next? p with
    | some c =>
      if folding.fold c == folding.fold d then takeText folding s text k (p + 1) t else .error t
    | none => .error t

/-- The test of a node that takes a single character. -/
def Node.characterTest? : Node → Option CharacterTest
  | .code folding n => some (.ofCode folding n)
  | .otherCode folding n => some (CharacterTest.ofCode folding n).others
  | .any all => some (.any all)
  | .set folding negated items => some (.ofSet folding negated items)
  | .group .plain [node] | .group .scoped [node] => node.characterTest?
  | _ => none

/-- What looking ahead or behind has come to decides; a match that must not be fails. -/
def lookedAt (enclosed negated : Bool) (seen : Attempt) (p : Place) (t : Trail) (k : Continue) :
    Attempt :=
  match seen, negated with
  | .ok u, false => k p u
  | .ok u, true => .error u
  | .error u, false => .error u
  | .error u, true => k p { u with marks := u.marks.givenUp t.marks enclosed }

/-- The first alternative that succeeds together with what follows. -/
def firstOf (enclosed : Bool) (s : Subject) :
    List Matcher → Place → Marks → Trail → Continue → Attempt
  | [], _, _, t, _ => .error t
  | m :: rest, p, saved, t, k =>
    if !m.lead.admits s p then firstOf enclosed s rest p saved t k
    else
      match m.run s p (t.movedTo p) k with
      | .ok u => .ok u
      | .error u =>
        firstOf enclosed s rest p saved { u with marks := u.marks.givenUp saved enclosed } k

mutual

/-- What matches a node; `next` is what comes right behind it, and `enclosed` is whether it is
part of a round of a repetition. -/
def Node.matcher (enclosed : Bool) (next : Lead) : Node → Matcher
  | .code .exact n => takeOne (.code n) (.ofCode .exact n)
  | .code folding n => takeOne .other (.ofCode folding n)
  | .otherCode folding n => takeOne .other (CharacterTest.ofCode folding n).others
  | .any all => takeOne .other (.any all)
  | .set .exact negated items => takeOne (.set negated items) (.ofSet .exact negated items)
  | .set folding negated items => takeOne .other (.ofSet folding negated items)
  | .anchor a => ⟨.other, fun s p t k => if a.holds s p then k p t else .error t⟩
  | .back folding group _ => ⟨.other, fun s p t k =>
    match t.marks.span? group with
    | some (low, high) => takeText folding s (s.between low high) k p t
    | none => .error t⟩
  | .group (.capturing index) body =>
    let body := matcherOf enclosed .other body
    ⟨.other, fun s p t k =>
      body.run s p { t with marks := t.marks.opened index p } fun q u =>
        k q { u with marks := u.marks.closed index q }⟩
  | .group _ body => matcherOf enclosed next body
  | .atomic body =>
    let body := matcherOf enclosed .other body
    ⟨.other, fun s p t k =>
      match body.run s p (t.movedTo p) arrive with
      | .ok u => k u.reached u
      | .error u => .error (u.movedTo p)⟩
  | .ahead negated body =>
    let body := matcherOf enclosed .other body
    ⟨.other, fun s p t k => lookedAt enclosed negated (body.run s p (t.movedTo p) arrive) p t k⟩
  | .behind negated width body =>
    let body := matcherOf enclosed .other body
    ⟨.other, fun s p t k =>
      if p < width then if negated then k p t else .error t
      else
        let q := p - width
        lookedAt enclosed negated (body.run s q (t.movedTo q) arrive) p t k⟩
  | .choice alternatives =>
    let alternatives := alternativesOf enclosed alternatives
    ⟨.other, fun s p t k => firstOf enclosed s alternatives p t.marks t k⟩
  | .repeated greed least most body =>
    match (Node.group .plain body).characterTest? with
    | some test => repeatCharacter enclosed next greed least most test
    | none =>
      repeatBody enclosed greed least most
        (matcherOf (enclosed || greed ≠ .possessive) .other body)
  | .conditional group yes no =>
    let matched := matcherOf enclosed (if no.isEmpty then next else .other) yes
    let unmatched := matcherOf enclosed next no
    ⟨.other, fun s p t k =>
      (if (t.marks.span? group).isSome then matched else unmatched).run s p t k⟩

/-- What matches a sequence, behind which `next` comes. -/
def matcherOf (enclosed : Bool) (next : Lead) : List Node → Matcher
  | [] => ⟨next, fun _ p t k => k p t⟩
  | [node] => node.matcher enclosed next
  | node :: rest =>
    let others := matcherOf enclosed next rest
    let first := node.matcher enclosed others.lead
    ⟨first.lead, fun s p t k => first.run s p t fun q u => others.run s q u k⟩

/-- What matches the alternatives of a choice. -/
def alternativesOf (enclosed : Bool) : List (List Node) → List Matcher
  | [] => []
  | body :: rest => matcherOf enclosed .other body :: alternativesOf enclosed rest

end

/-! ### Searching -/

/-- A set with its classes taken over ASCII alone, or over all scripts. -/
def SetItem.overAscii (ascii : Bool) : SetItem → SetItem
  | .category c _ negated => .category c ascii negated
  | item => item

mutual

/-- The set that a node starts with, if it starts with one. -/
def Node.firstSet? : Node → Option (Bool × List SetItem)
  | .set folding negated items =>
    if items.all (·.isPlain folding) then some (negated, items) else none
  | .group _ body => firstSetOf? body
  | _ => none

def firstSetOf? : List Node → Option (Bool × List SetItem)
  | node :: _ => node.firstSet?
  | [] => none

end

mutual

/-- Whether a node starts with a certain character. -/
def Node.startsPlain : Node → Bool
  | .code .exact _ => true
  | .group _ body => startsPlain body
  | _ => false

def startsPlain : List Node → Bool
  | node :: _ => node.startsPlain
  | [] => false

end

/-- How the places are found where a match may start. -/
inductive Starts where
  /-- At any place that leaves the least width less one. -/
  | anywhere
  /-- At a certain character. -/
  | character
  /-- At the characters of a set. -/
  | set (negated : Bool) (items : List SetItem)

/-- A pattern that is searched for. -/
structure Search where
  /-- What matches the pattern. -/
  matcher : Matcher
  /-- The least number of characters that the pattern takes by its form. -/
  width : Nat
  starts : Starts

/-- A search for a sequence under the options of a whole pattern: classes in the set that it
starts with are looked up the way these options say, whatever options hold within groups. -/
def Search.ofSequence (ascii : Bool) (pattern : Sequence) : Search :=
  let width := (widths pattern).1
  let starts :=
    if width = 0 then .anywhere
    else if startsPlain pattern then .character
    else
      match firstSetOf? pattern with
      | some (negated, items) => .set negated (items.map (·.overAscii ascii))
      | none => .anywhere
  ⟨matcherOf false .other pattern, width, starts⟩

/-- Whether a match may start here. -/
def Search.mayStart (search : Search) (s : Subject) (p : Place) : Bool :=
  match search.starts with
  | .anywhere => p = 0 || s.leaves p (search.width - 1)
  | .character => true
  | .set negated items => ((s.next? p).map (setTakes .exact negated items)).getD false

/-- The marks of a match that starts here. -/
def Search.here? (search : Search) (s : Subject) (p : Place) : Option Marks :=
  if !search.mayStart s p then none
  else
    match search.matcher.run s p ⟨p, []⟩ arrive with
    | .ok t => some t.marks
    | .error _ => none

/-- The marks of the first match that starts at `p` or at one of the `left` places behind it. -/
def Search.firstFrom? (search : Search) (s : Subject) : Nat → Place → Option Marks
  | 0, p => search.here? s p
  | left + 1, p =>
    match search.here? s p with
    | some marks => some marks
    | none => search.firstFrom? s left (p + 1)

/-- The marks of the first match in a text. -/
def Search.first? (search : Search) (s : Subject) : Option Marks :=
  if s.size < search.width then none else search.firstFrom? s s.size 0

/-- Whether a pattern matches at the start of a text. -/
def Search.matchesStart (search : Search) (s : Subject) : Bool :=
  search.width ≤ s.size && (search.matcher.run s 0 ⟨0, []⟩ arrive).isOk

end PatchReview.Pattern
