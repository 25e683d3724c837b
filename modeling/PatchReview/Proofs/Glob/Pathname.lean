import Mathlib.Logic.Function.Basic
import Mathlib.Tactic.Choose
import PatchReview.Glob.Pathname
import PatchReview.Proofs.Glob.Path
import PatchReview.Proofs.Outcome

/-! What path patterns take in which no wildcard is to span directories.

`Fits` says what such a pattern is to mean, by the text of the pattern. The program makes steps of
its parts, of which a set in brackets takes what its characters say (`Part.finds`): a slash too if
the set holds one, and behind a mark of negation what is left by the set with a slash in front,
which can start a range. Paths are told apart by single characters (`takes_iff_takes_iff`), so the
two agree on all paths exactly if they agree on the characters of every part, or nothing is taken
and nothing fits (`takes_fitting_iff`). Patterns are left out in which a negated set closes itself,
of which the program makes an expression. -/
namespace PatchReview.Glob.Pathname

open Text (StandIns)
open Text.Surrogate (code code_injective)

/-! ### Sets behind their opening bracket -/

/-- Something in which no closing bracket stands but in front. -/
structure IsBody (body : List Char) : Prop where
  ne_nil : body ≠ []
  bracket_notMem : ']' ∉ body.tail

/-- Whether a text starts with a mark of negation. -/
def StartsWithMark (s : List Char) : Prop := s.head? = some '!' ∨ s.head? = some '^'

/-- Whether a text is a set, behind its opening bracket, and something else behind the set. -/
inductive IsSet : List Char → Bool → List Char → List Char → Prop where
  | plain {body : List Char} (hbody : IsBody body) (hmark : ¬StartsWithMark body)
      (rest : List Char) : IsSet (body ++ ']' :: rest) false body rest
  | negated {mark : Char} (hmark : mark = '!' ∨ mark = '^') {body : List Char}
      (hbody : IsBody body) (rest : List Char) :
      IsSet (mark :: (body ++ ']' :: rest)) true body rest

theorem cutAtBracket_eq_some_iff {s body rest : List Char} :
    cutAtBracket s = some (body, rest) ↔ s = body ++ ']' :: rest ∧ ']' ∉ body := by
  induction s generalizing body with
  | nil => simp [cutAtBracket]
  | cons c s ih =>
    by_cases hc : c = ']'
    · subst hc
      rw [cutAtBracket, Option.some.injEq, Prod.mk.injEq]
      constructor
      · rintro ⟨rfl, rfl⟩
        exact ⟨rfl, List.not_mem_nil⟩
      · rintro ⟨he, hnone⟩
        cases body with
        | nil => exact ⟨rfl, (List.cons.inj he).2⟩
        | cons d body => exact absurd ((List.cons.inj he).1 ▸ List.mem_cons_self) hnone
    · rw [cutAtBracket, Option.map_eq_some_iff]
      · constructor
        · rintro ⟨⟨body, rest⟩, hcut, he⟩
          obtain ⟨rfl, rfl⟩ := Prod.mk.inj he
          obtain ⟨rfl, hnone⟩ := ih.1 hcut
          exact ⟨rfl, List.not_mem_cons_of_ne_of_not_mem (Ne.symm hc) hnone⟩
        · rintro ⟨he, hnone⟩
          cases body with
          | nil => exact absurd (List.cons.inj he).1 hc
          | cons d body =>
            obtain ⟨rfl, rfl⟩ := List.cons.inj he
            exact ⟨(body, rest), ih.2 ⟨rfl, List.not_mem_of_not_mem_cons hnone⟩, rfl⟩
      · exact hc

theorem cutBody_eq_some_iff {s body rest : List Char} :
    cutBody s = some (body, rest) ↔ s = body ++ ']' :: rest ∧ IsBody body := by
  unfold cutBody
  split
  · rename_i s
    rw [Option.map_eq_some_iff]
    constructor
    · rintro ⟨⟨body, rest⟩, hcut, he⟩
      obtain ⟨rfl, rfl⟩ := Prod.mk.inj he
      obtain ⟨rfl, hnone⟩ := cutAtBracket_eq_some_iff.1 hcut
      exact ⟨rfl, List.cons_ne_nil _ _, hnone⟩
    · rintro ⟨he, hne, hnone⟩
      cases body with
      | nil => exact absurd rfl hne
      | cons d body =>
        obtain ⟨rfl, rfl⟩ := List.cons.inj he
        exact ⟨(body, rest), cutAtBracket_eq_some_iff.2 ⟨rfl, hnone⟩, rfl⟩
  · rename_i hfirst
    rw [cutAtBracket_eq_some_iff]
    refine and_congr_right fun he => ?_
    subst he
    cases body with
    | nil => exact absurd rfl (hfirst rest)
    | cons d body =>
      have hd : d ≠ ']' := fun e => hfirst (body ++ ']' :: rest) (e ▸ rfl)
      rw [List.mem_cons, not_or]
      exact ⟨fun h => ⟨List.cons_ne_nil _ _, h.2⟩, fun h => ⟨hd.symm, h.2⟩⟩

/-- Behind a mark of negation the set that is cut off is a negated one. -/
theorem cutBody_map_negated_eq_some_iff {mark : Char} (hmark : mark = '!' ∨ mark = '^')
    {s rest : List Char} {part : Part} :
    (cutBody s).map (fun cut => (Part.set true cut.1, cut.2)) = some (part, rest) ↔
      ∃ negated body, part = .set negated body ∧ IsSet (mark :: s) negated body rest := by
  rw [Option.map_eq_some_iff]
  constructor
  · rintro ⟨⟨body, rest⟩, hcut, he⟩
    obtain ⟨rfl, rfl⟩ := Prod.mk.inj he
    obtain ⟨rfl, hbody⟩ := cutBody_eq_some_iff.1 hcut
    exact ⟨true, body, rfl, .negated hmark hbody rest⟩
  · rintro ⟨negated, body, rfl, hset⟩
    generalize ht : mark :: s = t at hset
    cases hset with
    | plain hbody hnone rest =>
      cases body with
      | nil => exact absurd rfl hbody.ne_nil
      | cons d body =>
        obtain ⟨rfl, -⟩ := List.cons.inj ht
        exact absurd (hmark.imp (congrArg some) (congrArg some)) hnone
    | negated hmark hbody rest =>
      obtain ⟨rfl, rfl⟩ := List.cons.inj ht
      exact ⟨(body, rest), cutBody_eq_some_iff.2 ⟨rfl, hbody⟩, rfl⟩

theorem cutSet_eq_some_iff {s rest : List Char} {part : Part} :
    cutSet s = some (part, rest) ↔
      ∃ negated body, part = .set negated body ∧ IsSet s negated body rest := by
  unfold cutSet
  split
  · exact cutBody_map_negated_eq_some_iff (.inl rfl)
  · exact cutBody_map_negated_eq_some_iff (.inr rfl)
  · rename_i hbang hcaret
    rw [Option.map_eq_some_iff]
    constructor
    · rintro ⟨⟨body, rest⟩, hcut, he⟩
      obtain ⟨rfl, rfl⟩ := Prod.mk.inj he
      obtain ⟨rfl, hbody⟩ := cutBody_eq_some_iff.1 hcut
      refine ⟨false, body, rfl, .plain hbody ?_ rest⟩
      cases body with
      | nil => exact absurd rfl hbody.ne_nil
      | cons d body =>
        rintro (h | h) <;> obtain rfl := Option.some.inj h
        · exact hbang _ rfl
        · exact hcaret _ rfl
    · rintro ⟨negated, body, rfl, hset⟩
      cases hset with
      | plain hbody _ rest => exact ⟨(body, rest), cutBody_eq_some_iff.2 ⟨rfl, hbody⟩, rfl⟩
      | negated hmark _ _ =>
        rcases hmark with rfl | rfl
        · exact absurd rfl (hbang _)
        · exact absurd rfl (hcaret _)

theorem IsSet.length_lt {t body rest : List Char} {negated : Bool}
    (h : IsSet t negated body rest) : rest.length < t.length := by
  cases h with
  | plain _ _ rest =>
    rw [List.length_append, List.length_cons]
    omega
  | negated _ _ rest =>
    rw [List.length_cons, List.length_append, List.length_cons]
    omega

theorem parts_set {t body rest : List Char} {negated : Bool} (h : IsSet t negated body rest) :
    parts ('[' :: t) = .set negated body :: parts rest := by
  have hset : cutSet t = some (.set negated body, rest) :=
    cutSet_eq_some_iff.2 ⟨negated, body, rfl, h⟩
  rw [parts]
  split
  · rename_i part after hcut
    obtain ⟨rfl, rfl⟩ := Prod.mk.inj (Option.some.inj (hset.symm.trans hcut))
    rfl
  · rename_i hcut
    exact absurd (hset.symm.trans hcut) (Option.some_ne_none _)

theorem parts_unclosed {t : List Char} (h : ∀ negated body rest, ¬IsSet t negated body rest) :
    parts ('[' :: t) = .char '[' :: parts t := by
  rw [parts]
  split
  · rename_i part after hcut
    obtain ⟨negated, body, -, hset⟩ := cutSet_eq_some_iff.1 hcut
    exact absurd hset (h negated body after)
  · rfl

theorem parts_char {c : Char} (h : c ≠ '*' ∧ c ≠ '?' ∧ c ≠ '[') (t : List Char) :
    parts (c :: t) = .char c :: parts t := by
  rw [parts]
  · exact h.1
  · exact h.2.1
  · exact h.2.2

/-! ### Tests for single characters -/

/-- The step of a part, with what it takes if it takes one character. -/
def Part.stepBy (test : Part → Char → Bool) : Part → Step
  | withinSegment => .many (· != '/')
  | part => .one (test part)

/-- The parts that take one character each. -/
def singles (parts : List Part) : List Part := parts.filter (· != .withinSegment)

/-- The path that leaves all stars empty and gives every other part a character. -/
def filled (f : Part → Char) (parts : List Part) : List Char := (singles parts).map f

/-- The characters of a path without newlines, with slashes for backslashes. -/
def InPath (c : Char) : Prop := c ≠ '\n' ∧ c ≠ '\\'

theorem inPath_slash : InPath '/' := ⟨by decide, by decide⟩

/-- The characters of unified paths without newlines are those of paths. -/
theorem inPath_of_mem {path : String} (h : '\n' ∉ path.toList) :
    ∀ c ∈ unifySeparators path.toList, InPath c := by
  intro c hc
  constructor
  · rintro rfl
    exact h ((mem_unifySeparators_iff (by decide) (by decide) _).1 hc)
  · rintro rfl
    exact backslash_notMem_unifySeparators _ hc

/-- Whether some part takes no character of a path. -/
def IsBarren (test : Part → Char → Bool) (parts : List Part) : Prop :=
  ∃ p ∈ singles parts, ∀ c, InPath c → test p c = false

/-- Whether a path is taken by parts that take single characters by a test. -/
def Takes (test : Part → Char → Bool) (parts : List Part) (s : List Char) : Prop :=
  Step.takes atPathEnd (parts.map (Part.stepBy test)) s = true

section
variable {test other : Part → Char → Bool}

theorem stepBy_of_ne {p : Part} (hp : p ≠ .withinSegment) : p.stepBy test = .one (test p) := by
  cases p with
  | withinSegment => exact absurd rfl hp
  | one | set _ _ | char _ => rfl

theorem takes_nil {s : List Char} (h : '\n' ∉ s) : Takes test [] s ↔ s = [] := atPathEnd_iff h

theorem takes_star {parts : List Part} {s : List Char} :
    Takes test (.withinSegment :: parts) s ↔
      ∃ run rest, s = run ++ rest ∧ '/' ∉ run ∧ Takes test parts rest := by
  rw [Takes, List.map_cons, Part.stepBy, Step.takes, someEnd_iff]
  refine exists_congr fun run => exists_congr fun rest => and_congr_right fun _ => ?_
  refine and_congr_left fun _ => ?_
  rw [List.all_eq_true]
  exact ⟨fun h hm => bne_iff_ne.1 (h _ hm) rfl, fun h c hc => bne_iff_ne.2 fun e => h (e ▸ hc)⟩

theorem takes_single {p : Part} (hp : p ≠ .withinSegment) {parts : List Part} {s : List Char} :
    Takes test (p :: parts) s ↔
      ∃ c rest, s = c :: rest ∧ test p c = true ∧ Takes test parts rest := by
  rw [Takes, List.map_cons, stepBy_of_ne hp]
  cases s with
  | nil => exact iff_of_false Bool.false_ne_true (by simp)
  | cons c s =>
    rw [Step.takes, Bool.and_eq_true]
    constructor
    · intro h
      exact ⟨c, s, rfl, h.1, h.2⟩
    · rintro ⟨d, rest, he, hd, h⟩
      obtain ⟨rfl, rfl⟩ := List.cons.inj he
      exact ⟨hd, h⟩

theorem singles_star (parts : List Part) : singles (.withinSegment :: parts) = singles parts := rfl

theorem singles_cons {p : Part} (hp : p ≠ .withinSegment) (parts : List Part) :
    singles (p :: parts) = p :: singles parts :=
  List.filter_cons_of_pos (bne_iff_ne.2 hp)

/-- Tests that agree on the characters of a path take it or not alike. -/
theorem Takes.congr {parts : List Part} {s : List Char}
    (h : ∀ p ∈ singles parts, ∀ c ∈ s, test p c = other p c) (ht : Takes test parts s) :
    Takes other parts s := by
  induction parts generalizing s with
  | nil => exact ht
  | cons p parts ih =>
    by_cases hp : p = .withinSegment
    · subst hp
      obtain ⟨run, rest, rfl, hrun, ht⟩ := takes_star.1 ht
      refine takes_star.2 ⟨run, rest, rfl, hrun, ih (fun q hq c hc => ?_) ht⟩
      exact h q hq c (List.mem_append_right run hc)
    · rw [singles_cons hp] at h
      obtain ⟨c, rest, rfl, hc, ht⟩ := (takes_single hp).1 ht
      refine (takes_single hp).2 ⟨c, rest, rfl, ?_, ih (fun q hq d hd => ?_) ht⟩
      · rwa [← h p List.mem_cons_self c List.mem_cons_self]
      · exact h q (List.mem_cons_of_mem p hq) d (List.mem_cons_of_mem c hd)

/-- What takes one character has taken one of the path. -/
theorem Takes.exists_mem {parts : List Part} {s : List Char} (ht : Takes test parts s) {p : Part}
    (hp : p ∈ singles parts) : ∃ c ∈ s, test p c = true := by
  induction parts generalizing s with
  | nil => exact absurd hp List.not_mem_nil
  | cons q parts ih =>
    by_cases hq : q = .withinSegment
    · subst hq
      obtain ⟨run, rest, rfl, -, ht⟩ := takes_star.1 ht
      obtain ⟨c, hc, hpc⟩ := ih ht hp
      exact ⟨c, List.mem_append_right run hc, hpc⟩
    · obtain ⟨c, rest, rfl, hqc, ht⟩ := (takes_single hq).1 ht
      rw [singles_cons hq] at hp
      rcases List.mem_cons.1 hp with rfl | hp
      · exact ⟨c, List.mem_cons_self, hqc⟩
      · obtain ⟨d, hd, hpd⟩ := ih ht hp
        exact ⟨d, List.mem_cons_of_mem c hd, hpd⟩

theorem Takes.length_le {parts : List Part} {s : List Char} (ht : Takes test parts s) :
    (singles parts).length ≤ s.length := by
  induction parts generalizing s with
  | nil => exact Nat.zero_le _
  | cons p parts ih =>
    by_cases hp : p = .withinSegment
    · subst hp
      obtain ⟨run, rest, rfl, -, ht⟩ := takes_star.1 ht
      rw [singles_star, List.length_append]
      exact Nat.le_trans (ih ht) (Nat.le_add_left _ _)
    · obtain ⟨c, rest, rfl, -, ht⟩ := (takes_single hp).1 ht
      rw [singles_cons hp]
      exact Nat.succ_le_succ (ih ht)

/-- No star takes a slash, so there are no more of them than parts that take one character. -/
theorem Takes.count_slash_le {parts : List Part} {s : List Char} (ht : Takes test parts s) :
    s.count '/' ≤ (singles parts).length := by
  induction parts generalizing s with
  | nil =>
    have hend : s = [] ∨ s = ['\n'] := by simpa [Takes, Step.takes, atPathEnd] using ht
    obtain rfl | rfl := hend
    · exact Nat.le_refl 0
    · exact Nat.le_refl 0
  | cons p parts ih =>
    by_cases hp : p = .withinSegment
    · subst hp
      obtain ⟨run, rest, rfl, hrun, ht⟩ := takes_star.1 ht
      rw [singles_star, List.count_append, List.count_eq_zero_of_not_mem hrun, Nat.zero_add]
      exact ih ht
    · obtain ⟨c, rest, rfl, -, ht⟩ := (takes_single hp).1 ht
      rw [singles_cons hp, List.length_cons, List.count_cons]
      have := ih ht
      split <;> omega

/-- Where stars have to stay empty every part takes its own character. -/
theorem takes_filled_iff {f : Part → Char} {parts : List Part} :
    Takes test parts (filled f parts) ↔ ∀ p ∈ singles parts, test p (f p) = true := by
  induction parts with
  | nil => exact iff_of_true rfl fun _ h => absurd h List.not_mem_nil
  | cons p parts ih =>
    by_cases hp : p = .withinSegment
    · subst hp
      rw [singles_star, ← ih, takes_star]
      constructor
      · rintro ⟨run, rest, he, -, ht⟩
        have hlength := ht.length_le
        have := congrArg List.length he
        rw [filled, singles_star, List.length_map, List.length_append] at this
        obtain rfl : run = [] := List.length_eq_zero_iff.1 (by omega)
        obtain rfl : filled f parts = rest := he
        exact ht
      · exact fun ht => ⟨[], _, rfl, List.not_mem_nil, ht⟩
    · rw [filled, singles_cons hp, List.map_cons, List.forall_mem_cons, ← ih, takes_single hp]
      constructor
      · rintro ⟨c, rest, he, hc, ht⟩
        obtain ⟨rfl, rfl⟩ := List.cons.inj he
        exact ⟨hc, ht⟩
      · exact fun ⟨hc, ht⟩ => ⟨_, _, rfl, hc, ht⟩

/-- Tests that take the same paths are the same if all parts take something by one of them. -/
theorem eq_of_takes_iff {parts : List Part} (hsome : ¬IsBarren test parts)
    (h : ∀ s, (∀ c ∈ s, InPath c) → (Takes test parts s ↔ Takes other parts s)) :
    ∀ p ∈ singles parts, ∀ c, InPath c → test p c = other p c := by
  have hchoice : ∀ p ∈ singles parts, ∃ c, InPath c ∧ test p c = true := by
    intro p hp
    by_contra hnone
    refine hsome ⟨p, hp, fun c hc => Bool.eq_false_iff.2 fun ht => hnone ⟨c, hc, ht⟩⟩
  choose! f hf using hchoice
  have hagree (g : Part → Char) (hg : ∀ p ∈ singles parts, InPath (g p)) :
      (∀ p ∈ singles parts, test p (g p) = true) ↔ ∀ p ∈ singles parts, other p (g p) = true := by
    rw [← takes_filled_iff, ← takes_filled_iff]
    refine h _ fun c hc => ?_
    obtain ⟨p, hp, rfl⟩ := List.mem_map.1 hc
    exact hg p hp
  have hother := (hagree f fun p hp => (hf p hp).1).1 fun p hp => (hf p hp).2
  intro p hp c hc
  -- One part is given another character, all else stays.
  have hchanged := hagree (Function.update f p c) fun q hq => by
    by_cases hqp : q = p
    · rw [hqp, Function.update_self]
      exact hc
    · rw [Function.update_of_ne hqp]
      exact (hf q hq).1
  have hone (t : Part → Char → Bool) (ht : ∀ q ∈ singles parts, t q (f q) = true) :
      (∀ q ∈ singles parts, t q (Function.update f p c q) = true) ↔ t p c = true := by
    constructor
    · intro hall
      have := hall p hp
      rwa [Function.update_self] at this
    · intro hpc q hq
      by_cases hqp : q = p
      · rw [hqp, Function.update_self]
        exact hpc
      · rw [Function.update_of_ne hqp]
        exact ht q hq
  rw [hone test fun q hq => (hf q hq).2, hone other hother] at hchanged
  exact Bool.eq_iff_iff.2 hchanged

/-- Parts take the same paths by two tests exactly if these agree, or take none by either. -/
theorem takes_iff_takes_iff {parts : List Part} :
    (∀ s, (∀ c ∈ s, InPath c) → (Takes test parts s ↔ Takes other parts s)) ↔
      (∀ p ∈ singles parts, ∀ c, InPath c → test p c = other p c) ∨
        IsBarren test parts ∧ IsBarren other parts := by
  constructor
  · intro h
    by_cases htest : IsBarren test parts
    · by_cases hother : IsBarren other parts
      · exact .inr ⟨htest, hother⟩
      · have hsame := eq_of_takes_iff hother fun s hs => (h s hs).symm
        exact .inl fun p hp c hc => (hsame p hp c hc).symm
    · exact .inl (eq_of_takes_iff htest h)
  · rintro (hsame | ⟨⟨p, hp, hnone⟩, q, hq, hother⟩) s hs
    · constructor
      · exact Takes.congr fun p hp c hc => hsame p hp c (hs c hc)
      · exact Takes.congr fun p hp c hc => (hsame p hp c (hs c hc)).symm
    · refine iff_of_false (fun ht => ?_) fun ht => ?_
      · obtain ⟨c, hc, htrue⟩ := ht.exists_mem hp
        exact Bool.false_ne_true ((hnone c (hs c hc)).symm.trans htrue)
      · obtain ⟨c, hc, htrue⟩ := ht.exists_mem hq
        exact Bool.false_ne_true ((hother c (hs c hc)).symm.trans htrue)

end

variable [StandIns]

/-! ### What a pattern is to mean -/

/-- Whether a set holds a character, by the characters between its brackets: of three with a hyphen
in the middle the outer ones are the ends of a range. -/
def holds (c : Char) : List Char → Bool
  | [] => false
  | low :: '-' :: high :: s => (code low ≤ code c && code c ≤ code high) || holds c s
  | d :: s => c == d || holds c s

/-- Whether a path fits a pattern. -/
inductive Fits : List Char → List Char → Prop where
  | nil : Fits [] []
  | star {run : List Char} (hrun : '/' ∉ run) {p s : List Char} (h : Fits p s) :
      Fits ('*' :: p) (run ++ s)
  | mark {c : Char} (hc : c ≠ '/') {p s : List Char} (h : Fits p s) : Fits ('?' :: p) (c :: s)
  | set {t : List Char} {negated : Bool} {body p : List Char} (hset : IsSet t negated body p)
      {c : Char} (hc : c ≠ '/') (hholds : holds c body = !negated) {s : List Char} (h : Fits p s) :
      Fits ('[' :: t) (c :: s)
  | unclosed {p : List Char} (hnone : ∀ negated body rest, ¬IsSet p negated body rest)
      {s : List Char} (h : Fits p s) : Fits ('[' :: p) ('[' :: s)
  | char {c : Char} (hc : c ≠ '*' ∧ c ≠ '?' ∧ c ≠ '[') {p s : List Char} (h : Fits p s) :
      Fits (c :: p) (c :: s)

/-- What a part that takes one character is to take. -/
def Part.wants : Part → Char → Bool
  | withinSegment, _ => false
  | one, c => c != '/'
  | set negated body, c => c != '/' && holds c body != negated
  | char d, c => c == d

/-- What a part that takes one character takes, if it can be made ready. -/
def Part.finds : Part → Char → Bool
  | withinSegment, _ => false
  | one, c => c != '/'
  | set false body, c => holds c body
  | set true body, c => !holds c ('/' :: body)
  | char d, c => c == d

theorem wants_set_iff {negated : Bool} {body : List Char} {c : Char} :
    (Part.set negated body).wants c = true ↔ c ≠ '/' ∧ holds c body = !negated := by
  rw [Part.wants, Bool.and_eq_true, bne_iff_ne, bne_iff_ne]
  refine and_congr_right fun _ => ?_
  cases holds c body <;> cases negated <;> decide

theorem takes_of_fits {pattern s : List Char} (hfits : Fits pattern s) (h : '\n' ∉ s) :
    Takes Part.wants (parts pattern) s := by
  induction hfits with
  | nil =>
    rw [parts]
    exact (takes_nil h).2 rfl
  | star hrun _ ih =>
    rw [parts]
    exact takes_star.2 ⟨_, _, rfl, hrun, ih fun hm => h (List.mem_append_right _ hm)⟩
  | mark hc _ ih =>
    rw [parts]
    have ih := ih fun hm => h (List.mem_cons_of_mem _ hm)
    exact (takes_single (by simp)).2 ⟨_, _, rfl, bne_iff_ne.2 hc, ih⟩
  | set hset hc hholds _ ih =>
    rw [parts_set hset]
    have ih := ih fun hm => h (List.mem_cons_of_mem _ hm)
    exact (takes_single (by simp)).2 ⟨_, _, rfl, wants_set_iff.2 ⟨hc, hholds⟩, ih⟩
  | unclosed hnone _ ih =>
    rw [parts_unclosed hnone]
    have ih := ih fun hm => h (List.mem_cons_of_mem _ hm)
    exact (takes_single (by simp)).2 ⟨_, _, rfl, beq_self_eq_true _, ih⟩
  | char hc _ ih =>
    rw [parts_char hc]
    have ih := ih fun hm => h (List.mem_cons_of_mem _ hm)
    exact (takes_single (by simp)).2 ⟨_, _, rfl, beq_self_eq_true _, ih⟩

theorem fits_of_takes {pattern s : List Char} (h : '\n' ∉ s)
    (ht : Takes Part.wants (parts pattern) s) : Fits pattern s := by
  induction hn : pattern.length using Nat.strongRecOn generalizing pattern s with
  | ind n ih =>
    have ih {rest : List Char} (hlt : rest.length < pattern.length) {s : List Char} (h : '\n' ∉ s)
        (ht : Takes Part.wants (parts rest) s) : Fits rest s := ih _ (hn ▸ hlt) h ht rfl
    cases pattern with
    | nil =>
      rw [parts, takes_nil h] at ht
      exact ht ▸ .nil
    | cons c t =>
      have hlt : t.length < (c :: t).length := Nat.lt_succ_self _
      by_cases hstar : c = '*'
      · subst hstar
        rw [parts] at ht
        obtain ⟨run, rest, rfl, hrun, ht⟩ := takes_star.1 ht
        exact .star hrun (ih hlt (fun hm => h (List.mem_append_right _ hm)) ht)
      by_cases hmark : c = '?'
      · subst hmark
        rw [parts] at ht
        obtain ⟨d, rest, rfl, hd, ht⟩ := (takes_single (by simp)).1 ht
        exact .mark (bne_iff_ne.1 hd) (ih hlt (fun hm => h (List.mem_cons_of_mem _ hm)) ht)
      by_cases hbracket : c = '['
      · subst hbracket
        by_cases hset : ∃ negated body rest, IsSet t negated body rest
        · obtain ⟨negated, body, after, hset⟩ := hset
          rw [parts_set hset] at ht
          obtain ⟨d, rest, rfl, hd, ht⟩ := (takes_single (by simp)).1 ht
          obtain ⟨hslash, hholds⟩ := wants_set_iff.1 hd
          refine .set hset hslash hholds (ih ?_ (fun hm => h (List.mem_cons_of_mem _ hm)) ht)
          exact Nat.lt_succ_of_lt hset.length_lt
        · have hnone negated body rest : ¬IsSet t negated body rest :=
            fun h => hset ⟨negated, body, rest, h⟩
          rw [parts_unclosed hnone] at ht
          obtain ⟨d, rest, rfl, hd, ht⟩ := (takes_single (by simp)).1 ht
          obtain rfl := beq_iff_eq.1 hd
          exact .unclosed hnone (ih hlt (fun hm => h (List.mem_cons_of_mem _ hm)) ht)
      · rw [parts_char ⟨hstar, hmark, hbracket⟩] at ht
        obtain ⟨d, rest, rfl, hd, hrest⟩ := (takes_single (by simp)).1 ht
        obtain rfl := beq_iff_eq.1 hd
        exact .char ⟨hstar, hmark, hbracket⟩
          (ih hlt (fun hm => h (List.mem_cons_of_mem _ hm)) hrest)

/-- A path fits a pattern exactly if its parts take what they are to take. -/
theorem fits_iff_takes {pattern s : List Char} (h : '\n' ∉ s) :
    Fits pattern s ↔ Takes Part.wants (parts pattern) s :=
  ⟨fun hfits => takes_of_fits hfits h, fits_of_takes h⟩

/-! ### What a pattern takes -/

/-- Whether no range of a set runs the wrong way round. -/
def ascends : List Char → Bool
  | [] => true
  | low :: '-' :: high :: s => code low ≤ code high && ascends s
  | _ :: s => ascends s

/-- Whether a part can be made ready. -/
def Part.IsReadable : Part → Prop
  | set false body => ascends body = true
  | set true body => ascends ('/' :: body) = true
  | _ => True

theorem takes_code (c d : Char) :
    (Pattern.SetItem.code (code d)).takes .exact (code c) = (c == d) := by
  rw [Bool.eq_iff_iff, beq_iff_eq]
  simp only [Pattern.SetItem.takes, ne_eq, not_true_eq_false, false_and, if_false,
    Pattern.Folding.takes, Pattern.Folding.forms, Pattern.Folding.fold, List.contains_cons,
    List.contains_nil, Bool.or_false, beq_iff_eq]
  exact ⟨fun h => code_injective h, congrArg code⟩

/-- The items of a set, if there are any, take what the set holds. -/
theorem exists_setItems {body : List Char} (h : ascends body = true) :
    ∃ items, setItems body = .ok items ∧
      ∀ c, items.any (·.takes .exact (code c)) = holds c body := by
  fun_induction ascends body with
  | case1 => exact ⟨[], rfl, fun c => rfl⟩
  | case2 low high s ih =>
    obtain ⟨hle, hrest⟩ := Bool.and_eq_true_iff.1 h
    obtain ⟨items, hitems, htakes⟩ := ih hrest
    refine ⟨.range (code low) (code high) :: items, ?_, fun c => ?_⟩
    · rw [setItems, if_neg (Nat.not_lt.2 (of_decide_eq_true hle)), hitems]
      rfl
    · rw [List.any_cons, htakes, holds]
      rfl
  | case3 d s hrange ih =>
    obtain ⟨items, hitems, htakes⟩ := ih h
    refine ⟨.code (code d) :: items, ?_, fun c => ?_⟩
    · rw [setItems, hitems]
      · rfl
      · exact hrange
    · rw [List.any_cons, htakes, takes_code, holds]
      exact hrange

theorem setItems_of_not_ascends {body : List Char} (h : ascends body = false) :
    setItems body = .error .badRange := by
  fun_induction ascends body with
  | case1 => exact absurd h (by decide)
  | case2 low high s ih =>
    rw [setItems]
    split
    · rfl
    · rename_i hle
      rw [decide_eq_true (Nat.not_lt.1 hle), Bool.true_and] at h
      rw [ih h]
      rfl
  | case3 d s hrange ih =>
    rw [setItems, ih h]
    · rfl
    · exact hrange

/-- A part that is readable takes what it finds. -/
theorem exists_piece {p : Part} (h : p.IsReadable) :
    ∃ piece, p.piece = .ok piece ∧ piece.step = p.stepBy Part.finds := by
  cases p with
  | withinSegment | one | char _ => exact ⟨_, rfl, rfl⟩
  | set negated body =>
    cases negated with
    | false =>
      obtain ⟨items, hitems, htakes⟩ := exists_setItems (show ascends body = true from h)
      refine ⟨.set false items, by rw [Part.piece, hitems]; rfl, ?_⟩
      refine congrArg Step.one (funext fun c => ?_)
      rw [Pattern.setTakes, htakes, Bool.bne_false, Part.finds]
    | true =>
      obtain ⟨items, hitems, htakes⟩ := exists_setItems (show ascends ('/' :: body) = true from h)
      refine ⟨.set true items, by rw [Part.piece, hitems]; rfl, ?_⟩
      refine congrArg Step.one (funext fun c => ?_)
      rw [Pattern.setTakes, htakes, Bool.bne_true, Part.finds]

theorem piece_of_not_isReadable {p : Part} (h : ¬p.IsReadable) : p.piece = .error .badRange := by
  cases p with
  | withinSegment | one | char _ => exact absurd trivial h
  | set negated body =>
    cases negated with
    | false => rw [Part.piece, setItems_of_not_ascends (Bool.not_eq_true _ ▸ h)]; rfl
    | true => rw [Part.piece, setItems_of_not_ascends (Bool.not_eq_true _ ▸ h)]; rfl

theorem exists_pieces {list : List Part} (h : ∀ p ∈ list, p.IsReadable) :
    ∃ pieces, list.mapM Part.piece = .ok pieces ∧
      pieces.map Piece.step = list.map (Part.stepBy Part.finds) := by
  induction list with
  | nil => exact ⟨[], rfl, rfl⟩
  | cons p list ih =>
    obtain ⟨piece, hpiece, hstep⟩ := exists_piece (h p List.mem_cons_self)
    obtain ⟨pieces, hpieces, hsteps⟩ := ih fun q hq => h q (List.mem_cons_of_mem p hq)
    refine ⟨piece :: pieces, ?_, ?_⟩
    · rw [List.mapM_cons, hpiece, hpieces]
      rfl
    · rw [List.map_cons, List.map_cons, hstep, hsteps]

section
variable {pattern : String}
  (hwhole : ∀ p ∈ parts (unifySeparators pattern.toList), p.isCutShort = false)
include hwhole

theorem accepts_eq_mapM (path : String) :
    accepts pattern path = ((parts (unifySeparators pattern.toList)).mapM Part.piece).map
      fun pieces => Step.takes atPathEnd (pieces.map Piece.step) (unifySeparators path.toList) := by
  have hnone : (parts (unifySeparators pattern.toList)).any Part.isCutShort = false :=
    List.any_eq_false.2 fun p hp => Bool.eq_false_iff.1 (hwhole p hp)
  rw [accepts, compile, compileParts, hnone]
  cases (parts (unifySeparators pattern.toList)).mapM Part.piece with
  | error e => rfl
  | ok pieces => exact congrArg Except.ok (Step.accepts_eq ..)

/-- A pattern that can be read takes what its parts find. -/
theorem exists_accepts (h : ∀ p ∈ parts (unifySeparators pattern.toList), p.IsReadable)
    (path : String) :
    ∃ out, accepts pattern path = .ok out ∧ (out = true ↔
      Takes Part.finds (parts (unifySeparators pattern.toList)) (unifySeparators path.toList)) := by
  obtain ⟨pieces, hpieces, hsteps⟩ := exists_pieces h
  refine ⟨_, (accepts_eq_mapM hwhole path).trans (congrArg _ hpieces), ?_⟩
  show Step.takes atPathEnd (pieces.map Piece.step) _ = true ↔ _
  rw [hsteps]
  rfl

/-- A pattern that gives an answer can be read. -/
theorem isReadable_of_accepts {path : String} {out : Bool} (h : accepts pattern path = .ok out) :
    ∀ p ∈ parts (unifySeparators pattern.toList), p.IsReadable := by
  rw [accepts_eq_mapM hwhole, Outcome.map_eq_ok_iff] at h
  obtain ⟨pieces, hpieces, -⟩ := h
  intro p hp
  by_contra hunreadable
  have herror := piece_of_not_isReadable hunreadable
  have hall := Outcome.mapM_eq_ok_iff.1 hpieces
  obtain ⟨piece, -, hpiece⟩ := Outcome.exists_of_forall₂ hall.flip hp
  exact absurd (herror.symm.trans hpiece) (by simp)

end

/-! ### Patterns that mean what they take -/

/-- Whether a set takes what is written: in no case a slash, and with a slash in front of it what
it would without. -/
def Part.IsAsWritten : Part → Prop
  | set false body => holds '/' body = false
  | set true body => ∀ c, InPath c → c ≠ '/' → holds c ('/' :: body) = holds c body
  | _ => True

theorem holds_slash {body : List Char} (h : ascends ('/' :: body) = true) :
    holds '/' ('/' :: body) = true := by
  rw [holds.eq_def]
  split
  · rename_i he
    exact absurd he (List.cons_ne_nil _ _)
  · rename_i low high s he
    obtain ⟨rfl, rfl⟩ := List.cons.inj he
    obtain ⟨hle, -⟩ := Bool.and_eq_true_iff.1 h
    rw [hle, decide_eq_true (Nat.le_refl _)]
    rfl
  · rename_i d s _ he
    obtain ⟨rfl, rfl⟩ := List.cons.inj he
    rfl

theorem finds_eq_wants_iff {p : Part} (h : p.IsReadable) :
    (∀ c, InPath c → p.finds c = p.wants c) ↔ p.IsAsWritten := by
  cases p with
  | withinSegment | one | char _ => exact iff_of_true (fun _ _ => rfl) trivial
  | set negated body =>
    cases negated with
    | false =>
      constructor
      · exact fun hall => hall '/' inPath_slash
      · intro hslash c hc
        by_cases he : c = '/'
        · rw [he]
          exact hslash
        · rw [Part.finds, Part.wants, bne_iff_ne.2 he, Bool.bne_false, Bool.true_and]
    | true =>
      have hslash : holds '/' ('/' :: body) = true := holds_slash h
      constructor
      · intro hall c hc he
        have := hall c hc
        rw [Part.finds, Part.wants, bne_iff_ne.2 he, Bool.bne_true, Bool.true_and] at this
        exact Bool.not_inj this
      · intro hall c hc
        by_cases he : c = '/'
        · rw [he, Part.finds, Part.wants, hslash]
          rfl
        · rw [Part.finds, Part.wants, bne_iff_ne.2 he, Bool.bne_true, Bool.true_and, hall c hc he]

/-- A pattern in which no negated set starts with a closing bracket, and so closes itself, takes
just those paths without newlines that fit it, exactly if no range in it runs the wrong way round,
also with a slash in front of negated sets, and either every set takes what is written or there is
nothing that the pattern takes and nothing that fits it. -/
theorem takes_fitting_iff (pattern : String)
    (hwhole : ∀ p ∈ parts (unifySeparators pattern.toList), p.isCutShort = false) :
    (∀ path : String, '\n' ∉ path.toList → ∃ out, accepts pattern path = .ok out ∧
        (out = true ↔ Fits (unifySeparators pattern.toList) (unifySeparators path.toList))) ↔
      (∀ p ∈ parts (unifySeparators pattern.toList), p.IsReadable) ∧
      ((∀ p ∈ parts (unifySeparators pattern.toList), p.IsAsWritten) ∨
        IsBarren Part.finds (parts (unifySeparators pattern.toList)) ∧
        IsBarren Part.wants (parts (unifySeparators pattern.toList))) := by
  have hall : (∀ p ∈ parts (unifySeparators pattern.toList), p.IsReadable) →
      ((∀ path : String, '\n' ∉ path.toList → ∃ out, accepts pattern path = .ok out ∧
          (out = true ↔ Fits (unifySeparators pattern.toList) (unifySeparators path.toList))) ↔
        ∀ s, (∀ c ∈ s, InPath c) →
          (Takes Part.finds (parts (unifySeparators pattern.toList)) s ↔
            Takes Part.wants (parts (unifySeparators pattern.toList)) s)) := by
    intro hreadable
    constructor
    · intro h s hs
      have hnewline : '\n' ∉ s := fun hm => (hs _ hm).1 rfl
      have hback : '\\' ∉ s := fun hm => (hs _ hm).2 rfl
      obtain ⟨out, hout, hfits⟩ := h (String.ofList s) (by rwa [String.toList_ofList])
      obtain ⟨out', hout', htakes⟩ := exists_accepts hwhole hreadable (String.ofList s)
      obtain rfl := Except.ok.inj (hout.symm.trans hout')
      rw [String.toList_ofList, unifySeparators_of_notMem hback] at hfits htakes
      rw [← htakes, hfits, fits_iff_takes hnewline]
    · intro h path hpath
      obtain ⟨out, hout, htakes⟩ := exists_accepts hwhole hreadable path
      have hin := inPath_of_mem hpath
      refine ⟨out, hout, ?_⟩
      rw [htakes, h _ hin, fits_iff_takes fun hm => (hin _ hm).1 rfl]
  constructor
  · intro h
    obtain ⟨out, hout, -⟩ := h "" (by decide)
    have hreadable := isReadable_of_accepts hwhole hout
    refine ⟨hreadable, (takes_iff_takes_iff.1 ((hall hreadable).1 h)).imp_left fun hsame p hp => ?_⟩
    by_cases hstar : p = .withinSegment
    · rw [hstar]
      exact trivial
    · refine (finds_eq_wants_iff (hreadable p hp)).1 (hsame p ?_)
      exact List.mem_filter.2 ⟨hp, bne_iff_ne.2 hstar⟩
  · rintro ⟨hreadable, hcase⟩
    refine (hall hreadable).2 (takes_iff_takes_iff.2 (hcase.imp_left fun hwritten p hp => ?_))
    have hp := (List.mem_filter.1 hp).1
    exact (finds_eq_wants_iff (hreadable p hp)).2 (hwritten p hp)

omit [StandIns] in
/-- A set that holds a slash takes it: not only what fits is taken. -/
theorem takes_fitting_iff_slash :
    letI : StandIns := ⟨.besides []⟩
    (∀ p ∈ parts (unifySeparators "[/]".toList), p.isCutShort = false) ∧
      ¬∀ path : String, '\n' ∉ path.toList → ∃ out, accepts "[/]" path = .ok out ∧
        (out = true ↔ Fits (unifySeparators "[/]".toList) (unifySeparators path.toList)) := by
  let : StandIns := ⟨.besides []⟩
  have hset : IsSet ['/', ']'] false ['/'] [] :=
    .plain (show IsBody ['/'] from ⟨List.cons_ne_nil _ _, List.not_mem_nil⟩) (by
      rintro (h | h) <;> exact absurd h (by decide)) []
  have hparts : parts (unifySeparators "[/]".toList) = [.set false ['/']] := by
    rw [show unifySeparators "[/]".toList = ['[', '/', ']'] from by decide, parts_set hset, parts]
  have hwhole : ∀ p ∈ parts (unifySeparators "[/]".toList), p.isCutShort = false := by
    rw [hparts]
    decide
  have hslash : holds '/' ['/'] = true := rfl
  refine ⟨hwhole, fun h => ?_⟩
  obtain ⟨-, hcase⟩ := (takes_fitting_iff "[/]" hwhole).1 h
  rw [hparts] at hcase
  rcases hcase with hwritten | ⟨⟨p, hp, hbarren⟩, -⟩
  · have : holds '/' ['/'] = false := hwritten _ List.mem_cons_self
    exact absurd (hslash.symm.trans this) (by decide)
  · obtain rfl := List.mem_singleton.1 (List.mem_filter.1 hp).1
    exact absurd (hslash.symm.trans (hbarren '/' inPath_slash)) (by decide)

end PatchReview.Glob.Pathname
