import PatchReview.Pattern.CharacterTest
import PatchReview.Pattern.Trail

/-! Repetitions.

A round that takes nothing is the last one beyond the least number. As many rounds as the
text has characters, beyond the least number, can take something, which bounds the loops. -/
namespace PatchReview.Pattern

/-- What an element starts with: one certain character, a set of characters, or something that
is found out only by matching it. -/
inductive Lead where
  | code (n : Nat)
  | set (negated : Bool) (items : List SetItem)
  | other

/-- Whether a single character that must come next does come next. -/
def Lead.literalAt (lead : Lead) (s : Subject) (p : Place) : Bool :=
  match lead with
  | .code n => match s[p]? with | some c => c == n | none => false
  | _ => true

/-- Whether what must come next can come next. -/
def Lead.admits (lead : Lead) (s : Subject) (p : Place) : Bool :=
  match lead with
  | .set negated items =>
    match s[p]? with | some c => setTakes .exact negated items c | none => false
  | _ => lead.literalAt s p

/-- What matches an element and what follows. -/
structure Matcher where
  /-- What comes first: the start of the element or, if it can be empty, of what follows. -/
  lead : Lead
  /-- Matches from a place in a text on. -/
  run : Subject → Place → Trail → Continue → Attempt

/-- More rounds than can take something anywhere in a text. -/
def roundLimit (s : Subject) : Nat := 2 * (s.size + 2)

/-- Whether there is no further round at a place: `most` of them are left, and `last` is where the
last one started. -/
def isOver (most : Option Nat) (last : Option Place) (p : Place) : Bool :=
  match most, last with
  | some 0, _ => true
  | _, some q => q == p
  | _, none => false

/-- Exactly `n` rounds, then what follows. -/
def repeatExactly (body : Matcher) (s : Subject) (k : Continue) : Nat → Continue
  | 0, p, t => k p t
  | n + 1, p, t => Continue.orBack (fun p t => body.run s p t (repeatExactly body s k n)) p t

/-- At most `most` further rounds, as many as possible first; `last` is where the last of them
started. -/
def repeatGreedy (body : Matcher) (s : Subject) (k : Continue) :
    Nat → Option Nat → Option Place → Continue
  | 0, _, _, p, t => k.orBack p t
  | limit + 1, most, last, p, t =>
    if isOver most last p then k.orBack p t
    else
      match body.run s p (t.movedTo p)
        (repeatGreedy body s k limit (most.map (· - 1)) (some p)) with
      | .ok t => .ok t
      | .error _ => k.orBack p t

/-- At most `most` further rounds, as few as possible first. -/
def repeatLazy (enclosed : Bool) (body : Matcher) (s : Subject) (k : Continue) :
    Nat → Option Nat → Option Place → Continue
  | 0, _, _, p, t => k.orBack p t
  | limit + 1, most, last, p, t =>
    match k p (t.movedTo p) with
    | .ok t => .ok t
    | .error failed =>
      let t : Trail := ⟨p, failed.marks.givenUp t.marks enclosed⟩
      if isOver most last p then .error t
      else
        Continue.orBack (fun p t =>
          body.run s p t (repeatLazy enclosed body s k limit (most.map (· - 1)) (some p))) p t

/-- Exactly `n` rounds, none of which is taken back. -/
def repeatFixed (body : Matcher) (s : Subject) : Nat → Trail → Attempt
  | 0, t => .ok t
  | n + 1, t =>
    match body.run s t.reached t arrive with
    | .ok t => repeatFixed body s n t
    | .error t => .error t

/-- At most `most` further rounds, as many as there are. When a round fails, it goes on from
the place which that round looked at last. -/
def repeatPossessive (body : Matcher) (s : Subject) : Nat → Option Nat → Option Place →
    Trail → Trail
  | 0, _, _, t => t
  | limit + 1, most, last, t =>
    if isOver most last t.reached then t
    else
      match body.run s t.reached t arrive with
      | .ok u => repeatPossessive body s limit (most.map (· - 1)) (some t.reached) u
      | .error u => { t with reached := u.reached }

/-- A repetition of an element; `enclosed` is whether it is part of a round of another one. -/
def repeatBody (enclosed : Bool) (greed : Greed) (least : Nat) (most : Option Nat)
    (body : Matcher) : Matcher :=
  let more := most.map (· - least)
  match greed with
  | .greedy => ⟨.other, fun s p t k =>
    repeatExactly body s (repeatGreedy body s k (roundLimit s) more none) least p t⟩
  | .lazy => ⟨.other, fun s p t k =>
    repeatExactly body s (repeatLazy enclosed body s k (roundLimit s) more none) least p t⟩
  | .possessive => ⟨.other, fun s p t k =>
    match repeatFixed body s least (t.movedTo p) with
    | .error u => .error (u.movedTo p)
    | .ok u =>
      let u := repeatPossessive body s (roundLimit s) more none u
      k u.reached u⟩

/-! ### Repetitions of one character -/

/-- The place behind the characters from `p` on that pass a test, but not behind `bound`. -/
def endOfRun (s : Subject) (test : Nat → Bool) (bound p : Place) : Place :=
  if _h : p < bound then
    match s[p]? with
    | some c => if test c then endOfRun s test bound (p + 1) else p
    | none => p
  else p
termination_by bound - p
decreasing_by exact Nat.sub_lt_sub_left _h (Nat.lt_succ_self p)

/-- Tries what follows from each of `n` places in turn, the last first, passing over those where
the character that must come next does not; `low` is the first of them. -/
def lastFrom (enclosed : Bool) (lead : Lead) (saved : Marks) (s : Subject) (k : Continue)
    (low : Place) : Nat → Trail → Attempt
  | 0, t => .error t
  | n + 1, t =>
    if !lead.literalAt s (low + n) then lastFrom enclosed lead saved s k low n t
    else
      match k (low + n) (t.movedTo (low + n)) with
      | .ok t => .ok t
      | .error u =>
        lastFrom enclosed lead saved s k low n ⟨u.reached, u.marks.givenUp saved enclosed⟩

/-- Tries what follows, then takes one of the `left` characters more, and so on. -/
def fewestFrom (enclosed : Bool) (test : CharacterTest) (saved : Marks) (s : Subject)
    (k : Continue) : Nat → Option Nat → Place → Trail → Attempt
  | left, most, p, t =>
    match k p (t.movedTo p) with
    | .ok t => .ok t
    | .error u =>
      let t : Trail := ⟨p, u.marks.givenUp saved enclosed⟩
      match left, s.next? p with
      | left + 1, some c =>
        if !test.holds c then .error t
        else if most == some 0 then .error (if test.noted then t.movedTo (p + 1) else t)
        else fewestFrom enclosed test saved s k left (most.map (· - 1)) (p + 1) t
      | _, _ => .error t

/-- A repetition of a single character; `next` is what comes right behind it. -/
def repeatCharacter (enclosed : Bool) (next : Lead) (greed : Greed) (least : Nat)
    (most : Option Nat) (test : CharacterTest) : Matcher where
  lead := .other
  run s p t k :=
    if !s.leaves p least then .error t
    else
      let counted := match greed with | .lazy => some least | _ => most
      let bound := (counted.map (p + ·)).elim s.size (min s.size)
      let last := endOfRun s test.holds bound p
      let t := t.movedTo (if test.noted ∧ ¬(greed = .lazy ∧ least = 0) then last else p)
      if last < p + least then .error t
      else
        match greed with
        | .greedy => lastFrom enclosed next t.marks s k (p + least) (last + 1 - (p + least)) t
        | .lazy =>
          fewestFrom enclosed test t.marks s k (s.size - last) (most.map (· - least)) last t
        | .possessive => k last t

end PatchReview.Pattern
