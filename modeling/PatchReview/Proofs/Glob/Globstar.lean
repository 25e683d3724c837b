import Mathlib.Data.List.Infix
import PatchReview.Glob.Globstar
import PatchReview.Proofs.Glob.Path

/-! What path patterns with two kinds of stars take.

Scanned from the left, a pattern is a list of pieces (`scan`), and a path fits if it can be cut into
texts that the pieces stand for (`Fits`). A pattern is read in another way: wildcards are put down
as words between zero characters, and the words are read back in three passes. A pass that meets
the name of its wildcard between two words that are not read back yet takes it for a word, with the
zero characters that end one word and start the other (`Misread`). Else it reads back the words it
is to read back (`collect_of_not_misread`).

What a misreading leaves is not read back by a later pass: a wildcard that stands behind an odd
number of zero characters stays there (`Stuck.collect`). So a zero character is left, and the
pattern takes no path without one. -/
namespace PatchReview.Glob.Globstar

/-- The zero character, which marks the ends of words. -/
def zero : Char := '\x00'

/-- The pieces of a pattern that is scanned from the left, two stars before one. -/
def scan : List Char → List Piece
  | '*' :: '*' :: s => .anything :: scan s
  | '*' :: s => .withinSegment :: scan s
  | '?' :: s => .one :: scan s
  | c :: s => .char c :: scan s
  | [] => []

/-- Whether a path can be cut into texts that pieces stand for, one after the other. -/
inductive Fits : List Piece → List Char → Prop where
  | nil : Fits [] []
  | anything (t : List Char) {pieces : List Piece} {s : List Char} (h : Fits pieces s) :
      Fits (.anything :: pieces) (t ++ s)
  | withinSegment {t : List Char} (ht : '/' ∉ t) {pieces : List Piece} {s : List Char}
      (h : Fits pieces s) : Fits (.withinSegment :: pieces) (t ++ s)
  | one (c : Char) {pieces : List Piece} {s : List Char} (h : Fits pieces s) :
      Fits (.one :: pieces) (c :: s)
  | char (c : Char) {pieces : List Piece} {s : List Char} (h : Fits pieces s) :
      Fits (.char c :: pieces) (c :: s)

/-! ### Steps of a pattern -/

/-- On a path without newlines the steps of pieces take what fits the pieces. -/
theorem takes_iff_fits (pieces : List Piece) {s : List Char} (h : '\n' ∉ s) :
    Step.takes atPathEnd (pieces.map Piece.step) s = true ↔ Fits pieces s := by
  induction pieces generalizing s with
  | nil =>
    rw [List.map_nil, Step.takes, atPathEnd_iff h]
    constructor
    · rintro rfl
      exact .nil
    · intro hfits
      cases hfits
      rfl
  | cons p pieces ih =>
    rw [List.map_cons]
    cases p with
    | anything =>
      rw [Piece.step, Step.takes, someEnd_iff]
      constructor
      · rintro ⟨t, rest, rfl, -, hrest⟩
        exact .anything t ((ih fun hm => h (List.mem_append_right t hm)).1 hrest)
      · intro hfits
        cases hfits with
        | anything t hrest =>
          exact ⟨t, _, rfl, List.all_eq_true.2 fun _ _ => rfl,
            (ih fun hm => h (List.mem_append_right t hm)).2 hrest⟩
    | withinSegment =>
      rw [Piece.step, Step.takes, someEnd_iff]
      constructor
      · rintro ⟨t, rest, rfl, ht, hrest⟩
        refine .withinSegment (fun hm => ?_) ((ih fun hm => h (List.mem_append_right t hm)).1 hrest)
        simpa using List.all_eq_true.1 ht _ hm
      · intro hfits
        cases hfits with
        | withinSegment ht hrest =>
          refine ⟨_, _, rfl, List.all_eq_true.2 fun c hc => bne_iff_ne.2 fun e => ht (e ▸ hc), ?_⟩
          exact (ih fun hm => h (List.mem_append_right _ hm)).2 hrest
    | one =>
      cases s with
      | nil => exact iff_of_false (by simp [Piece.step, Step.takes]) fun hfits => by cases hfits
      | cons c s =>
        rw [Piece.step, Step.takes, Bool.true_and, ih fun hm => h (List.mem_cons_of_mem c hm)]
        exact ⟨.one c, fun hfits => by cases hfits; assumption⟩
    | char d =>
      cases s with
      | nil => exact iff_of_false (by simp [Piece.step, Step.takes]) fun hfits => by cases hfits
      | cons c s =>
        rw [Piece.step, Step.takes, Bool.and_eq_true, beq_iff_eq,
          ih fun hm => h (List.mem_cons_of_mem c hm)]
        constructor
        · rintro ⟨rfl, hfits⟩
          exact .char c hfits
        · intro hfits
          cases hfits
          exact ⟨rfl, ‹_›⟩

/-- A path that is taken holds the characters of the pattern. -/
theorem mem_of_takes {pieces : List Piece} {c : Char} (hc : .char c ∈ pieces) {s : List Char}
    (h : Step.takes atPathEnd (pieces.map Piece.step) s = true) : c ∈ s := by
  induction pieces generalizing s with
  | nil => exact absurd hc List.not_mem_nil
  | cons p pieces ih =>
    rw [List.map_cons] at h
    have hrest : p = .char c ∨ .char c ∈ pieces := (List.mem_cons.1 hc).imp_left Eq.symm
    cases p with
    | anything | withinSegment =>
      rw [Piece.step, Step.takes, someEnd_iff] at h
      obtain ⟨t, rest, rfl, -, h⟩ := h
      exact List.mem_append_right t (ih (hrest.resolve_left (by simp)) h)
    | one =>
      cases s with
      | nil => exact absurd h (by simp [Piece.step, Step.takes])
      | cons d s =>
        rw [Piece.step, Step.takes, Bool.true_and] at h
        exact List.mem_cons_of_mem d (ih (hrest.resolve_left (by simp)) h)
    | char d =>
      cases s with
      | nil => exact absurd h (by simp [Piece.step, Step.takes])
      | cons e s =>
        rw [Piece.step, Step.takes, Bool.and_eq_true, beq_iff_eq] at h
        obtain ⟨rfl, h⟩ := h
        rcases hrest with he | hm
        · exact Piece.char.inj he ▸ List.mem_cons_self
        · exact List.mem_cons_of_mem e (ih hm h)

/-! ### Words -/

/-- The name that the word of a wildcard holds. -/
def Piece.name : Piece → String
  | anything => "GLOBSTAR"
  | withinSegment => "STAR"
  | one => "QMARK"
  | char _ => ""

/-- The pass in which the word of a wildcard is read back; a character is never put down as one. -/
def Piece.pass : Piece → Nat
  | anything => 1
  | withinSegment => 2
  | one => 3
  | char _ => 0

theorem Piece.pass_le (p : Piece) : p.pass ≤ 3 := by
  cases p with
  | char c => exact Nat.zero_le 3
  | anything | withinSegment | one => decide

theorem eq_of_pass_eq {p w : Piece} (hw : 0 < w.pass) (h : p.pass = w.pass) : p = w := by
  cases p <;> cases w <;> simp_all [Piece.pass]

/-- The characters of a wildcard's name. -/
def Piece.nameChars (p : Piece) : List Piece := p.name.toList.map .char

/-- A piece after some passes: itself, or still a word. -/
def Piece.spelled (passes : Nat) (p : Piece) : List Piece :=
  if p.pass ≤ passes then [p] else .char zero :: (p.nameChars ++ [.char zero])

/-- Pieces after some passes. -/
def spelled (passes : Nat) (pieces : List Piece) : List Piece :=
  pieces.flatMap (Piece.spelled passes)

/-- What the pass for a wildcard makes of some pieces. -/
def readBack (w : Piece) (pieces : List Piece) : List Piece := collect (word w.name) w 0 pieces

/-- Whether the name of a wildcard stands between two words that are there in the pass for that
wildcard, the one in front for a later pass. -/
def MisreadAs (w : Piece) (pieces : List Piece) : Prop :=
  ∃ front behind : Piece, w.pass < front.pass ∧ w.pass ≤ behind.pass ∧
    front :: (w.nameChars ++ [behind]) <:+: pieces

/-- Whether the name of some wildcard stands so. -/
def Misread (pieces : List Piece) : Prop := ∃ w : Piece, 0 < w.pass ∧ MisreadAs w pieces

theorem pieces_eq_readBack (pattern : List Char) :
    pieces pattern = readBack .one (readBack .withinSegment
      (readBack .anything ((marked pattern).map .char))) := rfl

theorem zero_notMem_name (p : Piece) : zero ∉ p.name.toList := by
  cases p with
  | char c => exact List.not_mem_nil
  | anything | withinSegment | one => decide

theorem map_word (p : Piece) :
    (word p.name).map Piece.char = .char zero :: (p.nameChars ++ [.char zero]) := by
  rw [word, List.cons_append, List.map_cons, List.map_append]
  rfl

theorem spelled_cons_of_le {passes : Nat} {p : Piece} (h : p.pass ≤ passes) (rest : List Piece) :
    spelled passes (p :: rest) = p :: spelled passes rest := by
  rw [spelled, List.flatMap_cons, Piece.spelled, if_pos h]
  rfl

theorem spelled_cons_of_lt {passes : Nat} {p : Piece} (h : passes < p.pass) (rest : List Piece) :
    spelled passes (p :: rest) =
      .char zero :: (p.nameChars ++ .char zero :: spelled passes rest) := by
  rw [spelled, List.flatMap_cons, Piece.spelled, if_neg (Nat.not_le.2 h), List.cons_append,
    List.append_assoc]
  rfl

/-- With their words put down, the pieces of a pattern are what it is marked as. -/
theorem map_marked (s : List Char) : (marked s).map Piece.char = spelled 0 (scan s) := by
  fun_induction scan s with
  | case1 s ih =>
    rw [marked, List.map_append, ih]
    rfl
  | case2 s h ih =>
    rw [marked, List.map_append, ih]
    · rfl
    · exact h
  | case3 s ih =>
    rw [marked, List.map_append, ih]
    rfl
  | case4 c s _ _ _ ih =>
    rw [marked, List.map_cons, ih]
    · rfl
    all_goals assumption
  | case5 => rfl

theorem spelled_three (pieces : List Piece) : spelled 3 pieces = pieces := by
  induction pieces with
  | nil => rfl
  | cons p rest ih =>
    rw [spelled_cons_of_le p.pass_le, ih]

theorem char_mem_scan_iff {c : Char} (hstar : c ≠ '*') (hmark : c ≠ '?') (s : List Char) :
    .char c ∈ scan s ↔ c ∈ s := by
  fun_induction scan s with
  | case1 s ih => simp [ih, hstar]
  | case2 s _ ih => simp [ih, hstar]
  | case3 s ih => simp [ih, hmark]
  | case4 d s _ _ _ ih => simp [ih]
  | case5 => simp

/-- The name of a wildcard and the end of a word stand in front exactly if the pieces say so. -/
theorem chars_prefix_spelled_iff {passes : Nat} {l : List Char} (hl : zero ∉ l)
    {pieces : List Piece} (h : .char zero ∉ pieces) :
    l.map Piece.char ++ [.char zero] <+: spelled passes pieces ↔
      ∃ behind rest, pieces = l.map Piece.char ++ behind :: rest ∧ passes < behind.pass := by
  induction l generalizing pieces with
  | nil =>
    cases pieces with
    | nil => simp [spelled]
    | cons p rest =>
      rcases Nat.lt_or_ge passes p.pass with hp | hp
      · rw [spelled_cons_of_lt hp]
        simp [hp]
      · have hne : .char zero ≠ p := fun e => h (e ▸ List.mem_cons_self)
        rw [spelled_cons_of_le hp]
        simp [hne, hp]
  | cons c l ih =>
    have hc : zero ≠ c := fun e => hl (e ▸ List.mem_cons_self)
    have hl : zero ∉ l := fun hm => hl (List.mem_cons_of_mem c hm)
    cases pieces with
    | nil => simp [spelled]
    | cons p rest =>
      have hrest : .char zero ∉ rest := fun hm => h (List.mem_cons_of_mem p hm)
      rcases Nat.lt_or_ge passes p.pass with hp | hp
      · rw [spelled_cons_of_lt hp]
        refine iff_of_false (fun hprefix => ?_) fun ⟨behind, rest, he, _⟩ => ?_
        · exact hc (Piece.char.inj (List.cons_prefix_cons.1 hprefix).1).symm
        · obtain rfl := (List.cons.inj he).1
          exact absurd hp (Nat.not_lt_zero _)
      · rw [spelled_cons_of_le hp, List.map_cons, List.cons_append, List.cons_prefix_cons,
          ih hl hrest]
        constructor
        · rintro ⟨rfl, behind, rest, rfl, hb⟩
          exact ⟨behind, rest, rfl, hb⟩
        · rintro ⟨behind, rest, he, hb⟩
          obtain ⟨rfl, rfl⟩ := List.cons.inj he
          exact ⟨rfl, behind, _, rfl, hb⟩

/-! ### Reading words back -/

theorem collect_eq_drop (word : List Char) (p : Piece) (skip : Nat) (pieces : List Piece) :
    collect word p skip pieces = collect word p 0 (pieces.drop skip) := by
  induction skip generalizing pieces with
  | zero => rfl
  | succ skip ih =>
    cases pieces with
    | nil => rfl
    | cons q rest => exact ih rest

/-- The word in front is read back. -/
theorem readBack_word (w : Piece) (rest : List Piece) :
    readBack w (.char zero :: (w.nameChars ++ .char zero :: rest)) = w :: readBack w rest := by
  have hprefix : ((word w.name).map Piece.char).isPrefixOf
      (.char zero :: (w.nameChars ++ .char zero :: rest)) = true := by
    rw [List.isPrefixOf_iff_prefix, map_word]
    exact ⟨rest, by simp⟩
  have hlength : (word w.name).length - 1 = (w.nameChars ++ [Piece.char zero]).length := by
    simp [word, Piece.nameChars]
  have hcut : w.nameChars ++ Piece.char zero :: rest = w.nameChars ++ [.char zero] ++ rest :=
    List.append_cons ..
  rw [readBack, collect, if_pos hprefix, collect_eq_drop, hlength, hcut, List.drop_left]
  rfl

theorem readBack_cons_of_not {w p : Piece} {rest : List Piece}
    (h : ¬.char zero :: (w.nameChars ++ [.char zero]) <+: p :: rest) :
    readBack w (p :: rest) = p :: readBack w rest := by
  rw [← map_word, ← List.isPrefixOf_iff_prefix] at h
  rw [readBack, collect, if_neg h]
  rfl

theorem readBack_cons_of_ne {w p : Piece} (h : p ≠ .char zero) (rest : List Piece) :
    readBack w (p :: rest) = p :: readBack w rest :=
  readBack_cons_of_not fun hprefix => h (List.cons_prefix_cons.1 hprefix).1.symm

theorem readBack_nameChars (w v : Piece) (rest : List Piece) :
    readBack w (v.nameChars ++ rest) = v.nameChars ++ readBack w rest := by
  have h (l : List Char) (hl : zero ∉ l) :
      readBack w (l.map Piece.char ++ rest) = l.map Piece.char ++ readBack w rest := by
    induction l with
    | nil => rfl
    | cons c l ih =>
      have hc : Piece.char c ≠ Piece.char zero := fun e =>
        hl (Piece.char.inj e ▸ List.mem_cons_self)
      rw [List.map_cons, List.cons_append, readBack_cons_of_ne hc,
        ih fun hm => hl (List.mem_cons_of_mem c hm), List.cons_append]
  exact h v.name.toList (zero_notMem_name v)

/-- The word of a later pass is left as it is, up to its end. -/
theorem readBack_of_pass_lt {w v : Piece} (hw : 0 < w.pass) (h : w.pass < v.pass)
    (rest : List Piece) :
    readBack w (.char zero :: (v.nameChars ++ .char zero :: rest)) =
      .char zero :: (v.nameChars ++ readBack w (.char zero :: rest)) := by
  rw [readBack_cons_of_not, readBack_nameChars]
  -- Names of different wildcards start differently.
  rw [List.cons_prefix_cons]
  rintro ⟨-, hprefix⟩
  cases w <;> cases v <;>
    simp_all [Piece.pass, Piece.nameChars, Piece.name, List.cons_prefix_cons]

/-! ### Passes -/

/-- A pass without a misreading reads back the words of its wildcard and no others. -/
theorem readBack_spelled {w : Piece} {passes : Nat} (hw : w.pass = passes + 1)
    {pieces : List Piece} (hzero : .char zero ∉ pieces) (h : ¬MisreadAs w pieces) :
    readBack w (spelled passes pieces) = spelled w.pass pieces := by
  induction pieces with
  | nil => rfl
  | cons p rest ih =>
    have hrest : .char zero ∉ rest := fun hm => hzero (List.mem_cons_of_mem p hm)
    have ih := ih hrest fun ⟨front, behind, hf, hb, hinfix⟩ =>
      h ⟨front, behind, hf, hb, List.infix_cons hinfix⟩
    rcases Nat.lt_trichotomy p.pass w.pass with hp | hp | hp
    · have hne : p ≠ .char zero := fun e => hzero (e ▸ List.mem_cons_self)
      rw [spelled_cons_of_le (by omega), spelled_cons_of_le hp.le, readBack_cons_of_ne hne, ih]
    · obtain rfl := eq_of_pass_eq (by omega) hp
      rw [spelled_cons_of_lt (by omega), spelled_cons_of_le (Nat.le_refl _), readBack_word, ih]
    · have hend : ¬.char zero :: (w.nameChars ++ [.char zero]) <+:
          .char zero :: spelled passes rest := by
        rw [List.cons_prefix_cons, Piece.nameChars,
          chars_prefix_spelled_iff (zero_notMem_name w) hrest]
        rintro ⟨-, behind, after, rfl, hb⟩
        refine h ⟨p, behind, hp, hw ▸ hb, [], after, ?_⟩
        simp [Piece.nameChars]
      rw [spelled_cons_of_lt (by omega), spelled_cons_of_lt hp, readBack_of_pass_lt (by omega) hp,
        readBack_cons_of_not hend, ih]

/-- Whether a wildcard stands behind an odd number of zero characters, or behind an even one if
`inside` a word at the start. -/
def Stuck : Bool → List Piece → Prop
  | _, [] => False
  | inside, .char c :: rest => Stuck (if c = zero then !inside else inside) rest
  | inside, _ :: rest => inside = true ∨ Stuck inside rest

theorem stuck_cons_of_ne {p : Piece} (hp : p ≠ .char zero) {inside : Bool} {rest : List Piece}
    (h : Stuck inside rest) : Stuck inside (p :: rest) := by
  cases p with
  | char c =>
    have hc : c ≠ zero := fun e => hp (e ▸ rfl)
    rwa [Stuck, if_neg hc]
  | anything | withinSegment | one => exact .inr h

theorem stuck_of_inside {w : Piece} (hw : 0 < w.pass) (rest : List Piece) :
    Stuck true (w :: rest) := by
  cases w with
  | char c => exact absurd hw (Nat.lt_irrefl 0)
  | anything | withinSegment | one => exact .inl rfl

theorem stuck_zero (inside : Bool) (rest : List Piece) :
    Stuck inside (.char zero :: rest) ↔ Stuck (!inside) rest := by
  rw [Stuck, if_pos rfl]

theorem stuck_nameChars (inside : Bool) (v : Piece) (rest : List Piece) :
    Stuck inside (v.nameChars ++ rest) ↔ Stuck inside rest := by
  have h (l : List Char) (hl : zero ∉ l) :
      Stuck inside (l.map Piece.char ++ rest) ↔ Stuck inside rest := by
    induction l with
    | nil => rfl
    | cons c l ih =>
      have hc : c ≠ zero := fun e => hl (e ▸ List.mem_cons_self)
      rw [List.map_cons, List.cons_append, Stuck, if_neg hc]
      exact ih fun hm => hl (List.mem_cons_of_mem c hm)
  exact h v.name.toList (zero_notMem_name v)

/-- A whole word does not change what is stuck behind it. -/
theorem stuck_word (inside : Bool) (v : Piece) (rest : List Piece) :
    Stuck inside (.char zero :: (v.nameChars ++ .char zero :: rest)) ↔ Stuck inside rest := by
  rw [stuck_zero, stuck_nameChars, stuck_zero, Bool.not_not]

/-- A pass either takes a word off the front or leaves the first piece. -/
theorem readBack_cases (w p : Piece) (rest : List Piece) :
    (∃ after, p :: rest = .char zero :: (w.nameChars ++ .char zero :: after) ∧
      readBack w (p :: rest) = w :: readBack w after) ∨
    readBack w (p :: rest) = p :: readBack w rest := by
  by_cases h : .char zero :: (w.nameChars ++ [.char zero]) <+: p :: rest
  · obtain ⟨after, hafter⟩ := h
    have he : p :: rest = .char zero :: (w.nameChars ++ .char zero :: after) := by
      rw [← hafter]
      simp
    exact .inl ⟨after, he, he ▸ readBack_word w after⟩
  · exact .inr (readBack_cons_of_not h)

/-- What is stuck stays so. -/
theorem Stuck.readBack {inside : Bool} {pieces : List Piece} (h : Stuck inside pieces) {w : Piece}
    (hw : 0 < w.pass) : Stuck inside (Globstar.readBack w pieces) := by
  induction hn : pieces.length using Nat.strongRecOn generalizing inside pieces with
  | ind n ih =>
    cases pieces with
    | nil => exact h
    | cons p rest =>
      rcases readBack_cases w p rest with ⟨after, he, hread⟩ | hread
      · rw [he, stuck_word] at h
        have hlt : after.length < n := by
          have := congrArg List.length he
          simp at this hn
          omega
        have hne : w ≠ .char zero := fun e => absurd hw (e ▸ Nat.lt_irrefl 0)
        rw [hread]
        exact stuck_cons_of_ne hne (ih _ hlt h rfl)
      · have hlt : rest.length < n := hn ▸ Nat.lt_succ_self _
        rw [hread]
        cases p with
        | char c => exact ih _ hlt h rfl
        | anything | withinSegment | one => exact h.imp_right fun h => ih _ hlt h rfl

/-- A misreading leaves a wildcard stuck. -/
theorem stuck_of_misreadAs {w : Piece} {passes : Nat} (hw : w.pass = passes + 1)
    {pieces : List Piece} (hzero : .char zero ∉ pieces) (h : MisreadAs w pieces) :
    Stuck false (readBack w (spelled passes pieces)) := by
  have hpos : 0 < w.pass := by omega
  induction pieces with
  | nil =>
    obtain ⟨front, behind, -, -, hinfix⟩ := h
    exact absurd (List.infix_nil.1 hinfix) (List.cons_ne_nil _ _)
  | cons p rest ih =>
    have hne : p ≠ .char zero := fun e => hzero (e ▸ List.mem_cons_self)
    have hrest : .char zero ∉ rest := fun hm => hzero (List.mem_cons_of_mem p hm)
    obtain ⟨front, behind, hf, hb, hinfix⟩ := h
    rcases List.infix_cons_iff.1 hinfix with hhere | hlater
    · obtain ⟨rfl, after, rfl⟩ := List.cons_prefix_cons.1 hhere
      obtain ⟨left, hleft⟩ := (chars_prefix_spelled_iff (zero_notMem_name w) hrest).2
        ⟨behind, after, by simp [Piece.nameChars], show passes < behind.pass by omega⟩
      rw [spelled_cons_of_lt (by omega), readBack_of_pass_lt hpos hf, ← hleft, ← Piece.nameChars,
        List.append_assoc, List.singleton_append, readBack_word, stuck_zero, stuck_nameChars]
      exact stuck_of_inside hpos _
    · have ih := ih hrest ⟨front, behind, hf, hb, hlater⟩
      rcases Nat.lt_trichotomy p.pass w.pass with hp | hp | hp
      · rw [spelled_cons_of_le (by omega), readBack_cons_of_ne hne]
        exact stuck_cons_of_ne hne ih
      · obtain rfl := eq_of_pass_eq (by omega) hp
        rw [spelled_cons_of_lt (by omega), readBack_word]
        exact stuck_cons_of_ne hne ih
      · rw [spelled_cons_of_lt (by omega), readBack_of_pass_lt hpos hp]
        -- The end of this word may be read as the start of another one.
        rcases readBack_cases w (.char zero) (spelled passes rest) with ⟨after, -, hread⟩ | hread
        · rw [hread, stuck_zero, stuck_nameChars]
          exact stuck_of_inside hpos _
        · rw [hread, stuck_word]
          exact ih

theorem zero_mem_of_stuck {pieces : List Piece} (h : Stuck false pieces) : .char zero ∈ pieces := by
  induction pieces with
  | nil => exact absurd h id
  | cons p rest ih =>
    by_cases hp : p = .char zero
    · exact hp ▸ List.mem_cons_self
    · refine List.mem_cons_of_mem p (ih ?_)
      cases p with
      | char c =>
        have hc : c ≠ zero := fun e => hp (e ▸ rfl)
        rwa [Stuck, if_neg hc] at h
      | anything | withinSegment | one => exact h.resolve_left Bool.false_ne_true

/-- Passes keep the characters that no word has. -/
theorem mem_readBack {c : Char} (hzero : c ≠ zero) {w : Piece} (hname : c ∉ w.name.toList)
    {pieces : List Piece} (h : .char c ∈ pieces) : .char c ∈ readBack w pieces := by
  induction hn : pieces.length using Nat.strongRecOn generalizing pieces with
  | ind n ih =>
    cases pieces with
    | nil => exact h
    | cons p rest =>
      rcases readBack_cases w p rest with ⟨after, he, hread⟩ | hread
      · have hafter : .char c ∈ after := by
          rw [he] at h
          simpa [hzero, Piece.nameChars, hname] using h
        have hlt : after.length < n := by
          have := congrArg List.length he
          simp at this hn
          omega
        rw [hread]
        exact List.mem_cons_of_mem w (ih _ hlt hafter rfl)
      · have hlt : rest.length < n := hn ▸ Nat.lt_succ_self _
        rw [hread]
        exact List.mem_cons.2 ((List.mem_cons.1 h).imp_right fun hm => ih _ hlt hm rfl)

/-! ### Whole patterns -/

section
variable {s : List Char} (hzero : .char zero ∉ scan s)
include hzero

theorem pieces_of_not_misread (h : ¬Misread (scan s)) : pieces s = scan s := by
  have hfirst := readBack_spelled (w := .anything) rfl hzero fun hmis => h ⟨_, by decide, hmis⟩
  have hsecond := readBack_spelled (w := .withinSegment) rfl hzero fun hmis =>
    h ⟨_, by decide, hmis⟩
  have hthird := readBack_spelled (w := .one) rfl hzero fun hmis => h ⟨_, by decide, hmis⟩
  rw [pieces_eq_readBack, map_marked, hfirst, Piece.pass, hsecond, Piece.pass, hthird]
  exact spelled_three _

/-- A misread pattern keeps a zero character. -/
theorem zero_mem_pieces (h : Misread (scan s)) : .char zero ∈ pieces s := by
  rw [pieces_eq_readBack, map_marked]
  refine zero_mem_of_stuck (Stuck.readBack ?_ (by decide))
  by_cases hfirst : MisreadAs .anything (scan s)
  · exact (stuck_of_misreadAs rfl hzero hfirst).readBack (by decide)
  · have hpass := readBack_spelled (w := .anything) rfl hzero hfirst
    obtain ⟨w, hw, hmis⟩ := h
    rw [hpass]
    cases w with
    | char c => exact absurd hw (Nat.lt_irrefl 0)
    | anything => exact absurd hmis hfirst
    | withinSegment => exact stuck_of_misreadAs rfl hzero hmis
    | one =>
      obtain ⟨front, _, hf, -⟩ := hmis
      exact absurd front.pass_le (Nat.not_le.2 hf)

end

theorem char_mem_pieces {c : Char} {s : List Char} (hc : .char c ∈ scan s)
    (hword : ∀ w : Piece, c ∉ word w.name) : .char c ∈ pieces s := by
  have hzero : c ≠ zero := fun e => hword .one (e ▸ List.mem_cons_self)
  have hname (w : Piece) : c ∉ w.name.toList := fun hm =>
    hword w (List.mem_append_left _ (List.mem_cons_of_mem _ hm))
  have hspelled : .char c ∈ spelled 0 (scan s) :=
    List.mem_flatMap.2 ⟨.char c, hc, List.mem_singleton_self _⟩
  rw [pieces_eq_readBack, map_marked]
  exact mem_readBack hzero (hname _) (mem_readBack hzero (hname _)
    (mem_readBack hzero (hname _) hspelled))

/-- A path that fits some pieces: nothing for stars, and a letter for a question mark. -/
def sample : List Piece → List Char
  | [] => []
  | .anything :: rest | .withinSegment :: rest => sample rest
  | .one :: rest => 'x' :: sample rest
  | .char c :: rest => c :: sample rest

theorem fits_sample (pieces : List Piece) : Fits pieces (sample pieces) := by
  induction pieces with
  | nil => exact .nil
  | cons p rest ih =>
    cases p with
    | anything => exact .anything [] ih
    | withinSegment => exact .withinSegment List.not_mem_nil ih
    | one => exact .one 'x' ih
    | char c => exact .char c ih

theorem mem_sample {c : Char} (hc : c ≠ 'x') {pieces : List Piece} (h : c ∈ sample pieces) :
    .char c ∈ pieces := by
  induction pieces with
  | nil => exact absurd h List.not_mem_nil
  | cons p rest ih =>
    cases p with
    | anything | withinSegment => exact List.mem_cons_of_mem _ (ih h)
    | one => exact List.mem_cons_of_mem _ (ih ((List.mem_cons.1 h).resolve_left hc))
    | char d =>
      rcases List.mem_cons.1 h with rfl | hm
      · exact List.mem_cons_self
      · exact List.mem_cons_of_mem _ (ih hm)

/-- The pieces that a path has to fit. -/
def wanted (pattern : String) : List Piece := scan (unifySeparators pattern.toList)

theorem char_mem_wanted_iff {c : Char} (hspecial : c ∉ ['*', '?', '/', '\\']) (pattern : String) :
    .char c ∈ wanted pattern ↔ c ∈ pattern.toList := by
  simp only [List.mem_cons, List.not_mem_nil, or_false, not_or] at hspecial
  obtain ⟨hstar, hmark, hslash, hback⟩ := hspecial
  rw [wanted, char_mem_scan_iff hstar hmark, mem_unifySeparators_iff hslash hback]

theorem backslash_notMem_wanted (pattern : String) : .char '\\' ∉ wanted pattern := by
  rw [wanted, char_mem_scan_iff (by decide) (by decide)]
  exact backslash_notMem_unifySeparators _

theorem newline_notMem_word (w : Piece) : '\n' ∉ word w.name := by
  cases w with
  | char c => exact fun h => absurd h (show '\n' ∉ word "" by decide)
  | anything | withinSegment | one => decide

theorem accepts_eq_takes (pattern path : String) :
    accepts pattern path = Step.takes atPathEnd
      ((pieces (unifySeparators pattern.toList)).map Piece.step) (unifySeparators path.toList) :=
  Step.accepts_eq ..

/-- A pattern without zero characters takes just those paths without newlines that fit it, exactly
if it holds a newline, so that there are none, or no name of a wildcard in it is misread. A pattern
in which one is misread takes no path without zero characters at all. -/
theorem accepts_iff_fits_iff (pattern : String) (hzero : zero ∉ pattern.toList) :
    ((∀ path : String, '\n' ∉ path.toList →
        (accepts pattern path = true ↔ Fits (wanted pattern) (unifySeparators path.toList))) ↔
      '\n' ∈ pattern.toList ∨ ¬Misread (wanted pattern)) ∧
    (Misread (wanted pattern) →
      ∀ path : String, zero ∉ path.toList → accepts pattern path = false) := by
  have hzero : .char zero ∉ wanted pattern :=
    fun hm => hzero ((char_mem_wanted_iff (by decide) pattern).1 hm)
  have hmisread : Misread (wanted pattern) →
      ∀ path : String, zero ∉ path.toList → accepts pattern path = false := by
    intro hmis path hpath
    refine Bool.eq_false_iff.2 fun haccepts => hpath ?_
    rw [accepts_eq_takes] at haccepts
    exact (mem_unifySeparators_iff (by decide) (by decide) _).1
      (mem_of_takes (zero_mem_pieces hzero hmis) haccepts)
  refine ⟨⟨fun hagree => ?_, fun hcase path hpath => ?_⟩, hmisread⟩
  · by_contra hnone
    obtain ⟨hnewline, hmis⟩ := not_or.1 hnone
    rw [not_not] at hmis
    -- The pattern does not take the simplest path that fits it.
    have hmem {c : Char} (hc : c ≠ 'x') (hwanted : .char c ∉ wanted pattern) :
        c ∉ (String.ofList (sample (wanted pattern))).toList := by
      rw [String.toList_ofList]
      exact fun hm => hwanted (mem_sample hc hm)
    have hsample := hmem (c := '\n') (by decide) fun hm =>
      hnewline ((char_mem_wanted_iff (by decide) pattern).1 hm)
    have hback := hmem (c := '\\') (by decide) (backslash_notMem_wanted pattern)
    have hfits := fits_sample (wanted pattern)
    rw [← String.toList_ofList (l := sample (wanted pattern)),
      ← unifySeparators_of_notMem hback] at hfits
    have haccepts := (hagree _ hsample).2 hfits
    rw [hmisread hmis _ (hmem (by decide) hzero)] at haccepts
    exact absurd haccepts Bool.false_ne_true
  · have hunified : '\n' ∉ unifySeparators path.toList := by
      rwa [mem_unifySeparators_iff (by decide) (by decide)]
    rw [accepts_eq_takes]
    by_cases hmis : Misread (wanted pattern)
    · -- No path without newlines is taken, nor does one fit.
      have hnewline : .char '\n' ∈ wanted pattern :=
        (char_mem_wanted_iff (by decide) pattern).2 (hcase.resolve_right (not_not.2 hmis))
      refine iff_of_false (fun htakes => hunified ?_) fun hfits => hunified ?_
      · exact mem_of_takes (char_mem_pieces hnewline newline_notMem_word) htakes
      · exact mem_of_takes hnewline ((takes_iff_fits _ hunified).2 hfits)
    · rw [pieces_of_not_misread hzero hmis]
      exact takes_iff_fits _ hunified

/-- The name of the star, between question marks, is misread: the path with that name between two
letters fits but is not taken. -/
theorem accepts_iff_fits_iff_star :
    zero ∉ "?STAR?".toList ∧ '\n' ∉ "aSTARb".toList ∧
      Fits (wanted "?STAR?") (unifySeparators "aSTARb".toList) ∧
      accepts "?STAR?" "aSTARb" = false := by
  have hzero : zero ∉ "?STAR?".toList := by decide
  have hmis : Misread (wanted "?STAR?") :=
    ⟨.withinSegment, by decide, .one, .one, by decide, by decide, [], [], by decide⟩
  refine ⟨hzero, by decide, ?_, (accepts_iff_fits_iff "?STAR?" hzero).2 hmis _ (by decide)⟩
  exact (takes_iff_fits (wanted "?STAR?") (by decide)).1 (by decide)

end PatchReview.Glob.Globstar
