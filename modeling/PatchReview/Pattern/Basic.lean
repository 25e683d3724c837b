/-! Regular expressions as trees.

A tree says on every node how it compares characters, so it can be matched without looking
at options. A sequence is a list of nodes; `widths` is the least and the greatest number of
characters a sequence takes, the second absent if there is no bound. -/
namespace PatchReview.Pattern

/-- How letters are compared: as they are, or without case over ASCII or over all scripts. -/
inductive Folding where
  | exact
  | ascii
  | unicode
  deriving DecidableEq, Repr

/-- A class of characters. -/
inductive Category where
  | digit
  | space
  | word
  deriving DecidableEq, Repr

/-- An item of a set: a character or a range by code points, or a class, taken over ASCII
alone or over all scripts, or its complement. -/
inductive SetItem where
  | code (n : Nat)
  | range (low high : Nat)
  | category (c : Category) (ascii negated : Bool)
  deriving DecidableEq, Repr

/-- A condition on a place in the text. -/
inductive Anchor where
  | textStart
  | lineStart
  | textEnd
  | lineEnd
  /-- The end of the text, or right before a newline that ends it. -/
  | lastLineEnd
  /-- Between a word character and another, or not there. -/
  | wordEdge (ascii negated : Bool)
  deriving DecidableEq, Repr

/-- In which order the numbers of repetitions are tried. -/
inductive Greed where
  | greedy
  | lazy
  /-- As many as there are, and no other number. -/
  | possessive
  deriving DecidableEq, Repr

inductive GroupKind where
  /-- Only brackets. -/
  | plain
  /-- Brackets with options of their own. -/
  | scoped
  | capturing (index : Nat)
  deriving DecidableEq, Repr

inductive Node where
  | code (folding : Folding) (n : Nat)
  | otherCode (folding : Folding) (n : Nat)
  /-- Any character, or any but the newline. -/
  | any (newline : Bool)
  | set (folding : Folding) (negated : Bool) (items : List SetItem)
  | anchor (a : Anchor)
  /-- What a group matched last; `width` is the width of the group. -/
  | back (folding : Folding) (group : Nat) (width : Nat × Option Nat)
  | group (kind : GroupKind) (body : List Node)
  | atomic (body : List Node)
  /-- What follows, or does not follow, without taking it. -/
  | ahead (negated : Bool) (body : List Node)
  /-- What stands, or does not stand, in the `width` characters before. -/
  | behind (negated : Bool) (width : Nat) (body : List Node)
  | choice (alternatives : List (List Node))
  | repeated (greed : Greed) (least : Nat) (most : Option Nat) (body : List Node)
  /-- One of two sequences, by whether a group has matched. -/
  | conditional (group : Nat) (yes no : List Node)
  deriving Repr, Inhabited

/-- A sequence of nodes. -/
abbrev Sequence := List Node

/-- A sum of bounds. -/
def addBounds : Option Nat → Option Nat → Option Nat
  | some a, some b => some (a + b)
  | _, _ => none

/-- The larger of two bounds. -/
def maxBound : Option Nat → Option Nat → Option Nat
  | some a, some b => some (max a b)
  | _, _ => none

/-- `most` times a bound. -/
def repeatBound (most : Option Nat) : Option Nat → Option Nat
  | some 0 => some 0
  | some b => most.map (b * ·)
  | none => if most = some 0 then some 0 else none

mutual

def Node.width : Node → Nat × Option Nat
  | .code .. | .otherCode .. | .any _ | .set .. => (1, some 1)
  | .anchor _ | .ahead .. | .behind .. => (0, some 0)
  | .back _ _ width => width
  | .group _ body | .atomic body => widths body
  | .choice alternatives => choiceWidth alternatives
  | .repeated _ least most body =>
    let (low, high) := widths body
    (low * least, repeatBound most high)
  | .conditional _ yes no =>
    let (low, high) := widths yes
    let (low', high') := widths no
    (min low low', maxBound high high')

/-- The least and the greatest number of characters that a sequence takes. -/
def widths : List Node → Nat × Option Nat
  | [] => (0, some 0)
  | node :: rest =>
    let (low, high) := node.width
    let (low', high') := widths rest
    (low + low', addBounds high high')

def choiceWidth : List (List Node) → Nat × Option Nat
  | [] => (0, some 0)
  | [body] => widths body
  | body :: rest =>
    let (low, high) := widths body
    let (low', high') := choiceWidth rest
    (min low low', maxBound high high')

end

end PatchReview.Pattern
