/-! How alike two texts are.

Two texts have in common the characters of their longest common stretch and what the rests on
either side of it have in common. They are alike if that makes up three fifths of both texts
together, which texts of too different a length cannot reach. -/
namespace PatchReview.Text.Likeness

/-- How many characters two texts start with alike. -/
def sharedStart : List Char → List Char → Nat
  | a :: s, b :: t => if a = b then sharedStart s t + 1 else 0
  | _, _ => 0

/-- A stretch that two texts share, and where it starts in both. -/
structure Stretch where
  start : Nat
  otherStart : Nat
  length : Nat
  deriving DecidableEq, Repr

/-- The longest stretch that two texts share; of several the first one. -/
def longest (s t : List Char) : Stretch :=
  let places := (List.range s.length).flatMap fun i => (List.range t.length).map fun j => (i, j)
  places.foldl
    (fun best (i, j) =>
      let n := sharedStart (s.drop i) (t.drop j)
      if best.length < n then ⟨i, j, n⟩ else best)
    ⟨0, 0, 0⟩

/-- How many characters two texts have in common, found in so many rounds at most. -/
def commonWithin : Nat → List Char → List Char → Nat
  | 0, _, _ => 0
  | rounds + 1, s, t =>
    let best := longest s t
    if best.length = 0 then 0
    else
      best.length + commonWithin rounds (s.take best.start) (t.take best.otherStart) +
        commonWithin rounds (s.drop (best.start + best.length))
          (t.drop (best.otherStart + best.length))

/-- How many characters two texts have in common; each round finds one at least. -/
def common (s t : List Char) : Nat := commonWithin s.length s t

/-- Whether so many common characters make up three fifths of all. -/
def isEnough (common all : Nat) : Bool := 3 * all ≤ 10 * common

/-- A text that was proposed for a word, with what speaks for it. -/
structure Proposal where
  text : String
  common : Nat
  all : Nat
  deriving DecidableEq, Repr

/-- A text as a proposal for a word, if the two are alike. -/
def Proposal.of? (word text : String) : Option Proposal :=
  let (s, t) := (text.toList, word.toList)
  let all := s.length + t.length
  if !isEnough (min s.length t.length) all then none
  else
    let n := Likeness.common s t
    if isEnough n all then some ⟨text, n, all⟩ else none

/-- Whether a proposal is no worse than another; of two that are equally good the one later in
the alphabet is first. -/
def Proposal.noWorse (a b : Proposal) : Bool :=
  b.common * a.all < a.common * b.all ||
    (b.common * a.all == a.common * b.all && decide (b.text ≤ a.text))

/-- The most texts that are proposed. -/
def most : Nat := 3

/-- The texts that are most like a word, the best first. -/
def closest (word : String) (texts : List String) : List String :=
  (((texts.filterMap (Proposal.of? word)).mergeSort Proposal.noWorse).take most).map (·.text)

end PatchReview.Text.Likeness
