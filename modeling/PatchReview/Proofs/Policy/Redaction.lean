import Mathlib.Data.List.Forall2
import PatchReview.Policy.Redaction
import PatchReview.Proofs.Text.Scan

/-! What hiding secrets leaves.

Secrets are told from the text alone (`IsSecret`), and so is what hiding them does: the first one is
found, its value as long as it goes gives way to stars, and hiding goes on behind it (`Redacts`). No
secret is left (`Redacts.not_isSecret`). One that was in front of the stars would have been longer
before (`Redacts.exists_value`), and the keyword in front of the stars has only these behind it
(`not_isSecret_of_suffix`). -/
namespace PatchReview.Redaction

open Text

/-! ### Keywords -/

/-- A word in any case. -/
def Spells (word s : List Char) : Prop :=
  List.Forall₂ (fun a c => Pattern.Folding.unicode.takes a.toNat c.toNat = true) word s

/-- What a secret is called. -/
inductive IsKeyword : List Char → Prop where
  | password {k : List Char} : Spells "password".toList k → IsKeyword k
  | secret {k : List Char} : Spells "secret".toList k → IsKeyword k
  | key {api mark key : List Char} : Spells "api".toList api → mark ∈ [[], ['_'], ['-']] →
      Spells "key".toList key → IsKeyword (api ++ (mark ++ key))

theorem afterWord?_eq_some_iff (word s rest : List Char) :
    afterWord? word s = some rest ↔ ∃ k, Spells word k ∧ s = k ++ rest := by
  induction word generalizing s with
  | nil =>
    constructor
    · rintro h
      obtain rfl := Option.some.inj h
      exact ⟨[], .nil, rfl⟩
    · rintro ⟨k, hk, rfl⟩
      rw [List.forall₂_nil_left_iff.1 hk]
      rfl
  | cons a word ih =>
    cases s with
    | nil =>
      refine iff_of_false (Option.some_ne_none rest).symm ?_
      rintro ⟨k, hk, hs⟩
      obtain ⟨c, k', -, -, rfl⟩ := List.forall₂_cons_left_iff.1 hk
      exact absurd hs (by simp)
    | cons c s =>
      rw [afterWord?]
      split
      · rename_i hc
        rw [ih]
        constructor
        · rintro ⟨k, hk, rfl⟩
          exact ⟨c :: k, .cons hc hk, rfl⟩
        · rintro ⟨k, hk, hs⟩
          obtain ⟨d, k', -, hk', rfl⟩ := List.forall₂_cons_left_iff.1 hk
          exact ⟨k', hk', (List.cons.inj hs).2⟩
      · rename_i hc
        refine iff_of_false (Option.some_ne_none rest).symm ?_
        rintro ⟨k, hk, hs⟩
        obtain ⟨d, k', hd, -, rfl⟩ := List.forall₂_cons_left_iff.1 hk
        exact hc ((List.cons.inj hs).1 ▸ hd)

/-- Letters that are not alike are met by no common character. -/
theorem takes_eq_false {a b : Char} {c : Nat}
    (hab : (Pattern.alike (Pattern.lowerCode a.toNat)).all
      (fun n => !(Pattern.alike (Pattern.lowerCode b.toNat)).contains n) = true)
    (h : Pattern.Folding.unicode.takes a.toNat c = true) :
    Pattern.Folding.unicode.takes b.toNat c = false := by
  have hmem : Pattern.lowerCode c ∈ Pattern.alike (Pattern.lowerCode a.toNat) :=
    List.contains_iff_mem.1 h
  have hnot := List.all_eq_true.1 hab _ hmem
  rwa [Bool.not_eq_true'] at hnot

/-- A word is not found in front of a text that starts as another word does. -/
theorem afterWord?_eq_none {a b : Char} {word other k : List Char} (hk : Spells (a :: word) k)
    (hab : (Pattern.alike (Pattern.lowerCode a.toNat)).all
      (fun n => !(Pattern.alike (Pattern.lowerCode b.toNat)).contains n) = true)
    (rest : List Char) : afterWord? (b :: other) (k ++ rest) = none := by
  obtain ⟨c, k', hc, -, rfl⟩ := List.forall₂_cons_left_iff.1 hk
  rw [List.cons_append, afterWord?, takes_eq_false hab hc]
  rfl

/-- No hyphen and no underscore is a letter. -/
theorem ne_mark_of_spells {k : List Char} (hk : Spells "key".toList k) (rest : List Char) :
    ∀ c t, k ++ rest = c :: t → c ≠ '_' ∧ c ≠ '-' := by
  obtain ⟨d, k', hd, -, rfl⟩ := List.forall₂_cons_left_iff.1 hk
  have hmarks : ['_', '-'].all
      (fun c => !Pattern.Folding.unicode.takes 'k'.toNat c.toNat) = true := by decide +kernel
  rw [List.all_cons, List.all_cons, Bool.and_eq_true, Bool.and_eq_true, Bool.not_eq_true',
    Bool.not_eq_true'] at hmarks
  intro c t hc
  obtain rfl := (List.cons.inj hc).1
  refine ⟨?_, ?_⟩
  · rintro rfl
    exact Bool.false_ne_true (hmarks.1.symm.trans hd)
  · rintro rfl
    exact Bool.false_ne_true (hmarks.2.1.symm.trans hd)

theorem afterKey?_eq_some_iff (s rest : List Char) :
    afterKey? s = some rest ↔ ∃ api mark key, Spells "api".toList api ∧ mark ∈ [[], ['_'], ['-']] ∧
      Spells "key".toList key ∧ s = api ++ (mark ++ key) ++ rest := by
  simp only [afterKey?, Option.bind_eq_bind, Option.bind_eq_some_iff, afterWord?_eq_some_iff]
  constructor
  · rintro ⟨u, ⟨api, hapi, rfl⟩, h⟩
    split at h
    · obtain ⟨key, hkey, rfl⟩ := (afterWord?_eq_some_iff _ _ _).1 h
      exact ⟨api, ['_'], key, hapi, by simp, hkey, by simp⟩
    · obtain ⟨key, hkey, rfl⟩ := (afterWord?_eq_some_iff _ _ _).1 h
      exact ⟨api, ['-'], key, hapi, by simp, hkey, by simp⟩
    · obtain ⟨key, hkey, rfl⟩ := (afterWord?_eq_some_iff _ _ _).1 h
      exact ⟨api, [], key, hapi, by simp, hkey, by simp⟩
  · rintro ⟨api, mark, key, hapi, hmark, hkey, rfl⟩
    refine ⟨mark ++ key ++ rest, ⟨api, hapi, by simp⟩, ?_⟩
    have hfound : afterWord? "key".toList (key ++ rest) = some rest :=
      (afterWord?_eq_some_iff _ _ _).2 ⟨key, hkey, rfl⟩
    simp only [List.mem_cons, List.not_mem_nil, or_false] at hmark
    rcases hmark with rfl | rfl | rfl
    · rw [List.nil_append]
      have hne := ne_mark_of_spells hkey rest
      split
      · rename_i t ht
        exact absurd rfl (hne _ t ht).1
      · rename_i t ht
        exact absurd rfl (hne _ t ht).2
      · exact hfound
    · exact hfound
    · exact hfound

/-- The three keywords start with letters that are not alike. -/
theorem afterKeyword?_eq_some_iff (s rest : List Char) :
    afterKeyword? s = some rest ↔ ∃ k, IsKeyword k ∧ s = k ++ rest := by
  simp only [afterKeyword?, Option.orElse_eq_orElse, Option.orElse_eq_or, Option.or_eq_some_iff]
  constructor
  · rintro (h | ⟨-, h | ⟨-, h⟩⟩)
    · obtain ⟨k, hk, rfl⟩ := (afterWord?_eq_some_iff _ _ _).1 h
      exact ⟨k, .password hk, rfl⟩
    · obtain ⟨k, hk, rfl⟩ := (afterWord?_eq_some_iff _ _ _).1 h
      exact ⟨k, .secret hk, rfl⟩
    · obtain ⟨api, mark, key, hapi, hmark, hkey, rfl⟩ := (afterKey?_eq_some_iff _ _).1 h
      exact ⟨_, .key hapi hmark hkey, rfl⟩
  · rintro ⟨k, hk, rfl⟩
    cases hk with
    | password hk => exact .inl ((afterWord?_eq_some_iff _ _ _).2 ⟨k, hk, rfl⟩)
    | secret hk =>
      exact .inr ⟨afterWord?_eq_none hk (by decide +kernel) rest,
        .inl ((afterWord?_eq_some_iff _ _ _).2 ⟨k, hk, rfl⟩)⟩
    | @key api mark key hapi hmark hkey =>
      rw [List.append_assoc]
      refine .inr ⟨afterWord?_eq_none hapi (by decide +kernel) _,
        .inr ⟨afterWord?_eq_none hapi (by decide +kernel) _, ?_⟩⟩
      exact (afterKey?_eq_some_iff _ _).2
        ⟨api, mark, key, hapi, hmark, hkey, (List.append_assoc _ _ _).symm⟩

theorem exists_takes_of_mem {word k : List Char} (hk : Spells word k) {c : Char} (hc : c ∈ k) :
    ∃ a ∈ word, Pattern.Folding.unicode.takes a.toNat c.toNat = true := by
  induction hk with
  | nil => exact absurd hc List.not_mem_nil
  | cons hfirst _ ih =>
    rcases List.mem_cons.1 hc with rfl | hc
    · exact ⟨_, List.mem_cons_self, hfirst⟩
    · obtain ⟨a, ha, htakes⟩ := ih hc
      exact ⟨a, List.mem_cons_of_mem _ ha, htakes⟩

/-- Signs and stars, which are not alike to any letter of a keyword. -/
theorem marks_not_taken : ("passwordsecretapikey".toList.all fun a => [':', '=', '*'].all fun c =>
    !Pattern.Folding.unicode.takes a.toNat c.toNat) = true := by
  decide +kernel

theorem notMem_of_spells {word k : List Char} (hk : Spells word k)
    (hword : word ⊆ "passwordsecretapikey".toList) {c : Char} (hc : c ∈ [':', '=', '*']) :
    c ∉ k := by
  intro hm
  obtain ⟨a, ha, htakes⟩ := exists_takes_of_mem hk hm
  have hnot := List.all_eq_true.1 (List.all_eq_true.1 marks_not_taken a (hword ha)) c hc
  rw [htakes] at hnot
  exact absurd hnot (by decide)

/-- A keyword holds neither a sign nor a star. -/
theorem notMem_of_isKeyword {k : List Char} (hk : IsKeyword k) {c : Char}
    (hc : c ∈ [':', '=', '*']) : c ∉ k := by
  cases hk with
  | password hk => exact notMem_of_spells hk (by decide) hc
  | secret hk => exact notMem_of_spells hk (by decide) hc
  | @key api mark key hapi hmark hkey =>
    have hnone : c ∉ mark := by
      simp only [List.mem_cons, List.not_mem_nil, or_false] at hc hmark
      rcases hmark with rfl | rfl | rfl <;> rcases hc with rfl | rfl | rfl <;> decide
    rw [List.mem_append, List.mem_append, not_or, not_or]
    exact ⟨notMem_of_spells hapi (by decide) hc, hnone, notMem_of_spells hkey (by decide) hc⟩

theorem Spells.ne_nil {a : Char} {word k : List Char} (hk : Spells (a :: word) k) : k ≠ [] := by
  obtain ⟨c, t, -, -, rfl⟩ := List.forall₂_cons_left_iff.1 hk
  exact List.cons_ne_nil c t

theorem IsKeyword.ne_nil {k : List Char} (hk : IsKeyword k) : k ≠ [] := by
  cases hk with
  | password hk => exact hk.ne_nil
  | secret hk => exact hk.ne_nil
  | key hapi _ _ => exact List.append_ne_nil_of_left_ne_nil hapi.ne_nil _

/-! ### Signs and values -/

/-- A colon or an equals sign, with blanks around. -/
inductive IsSign : List Char → Prop where
  | mk {u w : List Char} {c : Char} : allBlank u = true → allBlank w = true → c ∈ [':', '='] →
      IsSign (u ++ c :: w)

/-- What may follow a sign as a value. -/
structure IsValue (v : List Char) : Prop where
  long : leastValue ≤ v.length
  plain : ∀ c ∈ v, isValueChar c = true

/-- A text that a value does not go on with. -/
def EndsValue (s : List Char) : Prop := ∀ c ∈ s.head?, isValueChar c = false

/-- A keyword, a sign and a value. -/
inductive IsSecret : List Char → Prop where
  | mk {k g v : List Char} : IsKeyword k → IsSign g → IsValue v → IsSecret (k ++ (g ++ v))

theorem isBlank_of_isValueChar {c : Char} (h : isValueChar c = true) : isBlank c = false := by
  simp only [isValueChar, Bool.and_eq_true, Bool.not_eq_true'] at h
  exact h.1.1

theorem isBlank_of_sign {c : Char} (h : c ∈ [':', '=']) : isBlank c = false := by
  simp only [List.mem_cons, List.not_mem_nil, or_false] at h
  rcases h with rfl | rfl <;> decide

theorem isBlank_of_allBlank {w : List Char} (h : allBlank w = true) {c : Char} (hc : c ∈ w) :
    isBlank c = true := List.all_eq_true.1 h c hc

/-- Blanks in front of a value are passed over. -/
theorem trimStart_append_value {w v : List Char} (hw : allBlank w = true) (hv : IsValue v)
    (s : List Char) : trimStart (w ++ (v ++ s)) = v ++ s := by
  obtain ⟨hlong, hplain⟩ := hv
  cases v with
  | nil => exact absurd hlong (by decide)
  | cons c v =>
    rw [trimStart_append hw, List.cons_append,
      trimStart_cons (isBlank_of_isValueChar (hplain c List.mem_cons_self))]

theorem afterSign?_append {g v : List Char} (hg : IsSign g) (hv : IsValue v) (s : List Char) :
    afterSign? (g ++ (v ++ s)) = some (v ++ s) := by
  obtain ⟨hu, hw, hc⟩ := hg
  rw [afterSign?, List.append_assoc, List.cons_append, trimStart_append hu,
    trimStart_cons (isBlank_of_sign hc)]
  have htrim := trimStart_append_value hw hv s
  simp only [List.mem_cons, List.not_mem_nil, or_false] at hc
  rcases hc with rfl | rfl <;> exact congrArg some htrim

theorem exists_trimStart (s : List Char) : ∃ w, allBlank w = true ∧ s = w ++ trimStart s :=
  ⟨s.takeWhile isBlank, List.all_takeWhile, List.takeWhile_append_dropWhile.symm⟩

/-- A sign with the blanks in front of it and behind it. -/
theorem exists_sign {s t : List Char} {c : Char} (hc : c ∈ [':', '=']) (ht : trimStart s = c :: t) :
    ∃ g, IsSign g ∧ s = g ++ trimStart t := by
  obtain ⟨u, hu, hs⟩ := exists_trimStart s
  obtain ⟨w, hw, hrest⟩ := exists_trimStart t
  refine ⟨u ++ c :: w, .mk hu hw hc, ?_⟩
  rw [List.append_assoc, List.cons_append, ← hrest, ← ht, ← hs]

theorem exists_of_afterSign? {s rest : List Char} (h : afterSign? s = some rest) :
    ∃ g, IsSign g ∧ s = g ++ rest := by
  rw [afterSign?] at h
  split at h
  · rename_i t ht
    obtain rfl := Option.some.inj h
    exact exists_sign (by decide) ht
  · rename_i t ht
    obtain rfl := Option.some.inj h
    exact exists_sign (by decide) ht
  · exact absurd h (Option.some_ne_none rest).symm

theorem takeWhile_of_endsValue {s : List Char} (hs : EndsValue s) :
    s.takeWhile isValueChar = [] := by
  cases s with
  | nil => rfl
  | cons c s =>
    have hc : isValueChar c = false := hs c rfl
    rw [List.takeWhile_cons, hc]
    rfl

theorem endsValue_dropWhile (s : List Char) : EndsValue (s.dropWhile isValueChar) := by
  intro c hc
  obtain ⟨t, ht⟩ := List.head?_eq_some_iff.1 hc
  have hne : s.dropWhile isValueChar ≠ [] := ht ▸ List.cons_ne_nil c t
  have hnot := List.head_dropWhile_not isValueChar hne
  simpa [ht] using hnot

/-- The secret that a text starts with: its value goes on as long as it can. -/
theorem exists_of_secretAt? {s kept : List Char} {n : Nat} (h : secretAt? s = some (kept, n)) :
    ∃ k g v rest, IsKeyword k ∧ IsSign g ∧ IsValue v ∧ EndsValue rest ∧
      s = k ++ (g ++ (v ++ rest)) ∧ kept = k ++ g ∧ n = (k ++ (g ++ v)).length := by
  simp only [secretAt?, Option.bind_eq_bind, Option.bind_eq_some_iff] at h
  obtain ⟨behind, hbehind, rest, hrest, h⟩ := h
  obtain ⟨k, hk, rfl⟩ := (afterKeyword?_eq_some_iff _ _).1 hbehind
  obtain ⟨g, hg, rfl⟩ := exists_of_afterSign? hrest
  split at h
  · exact absurd h (by simp)
  · rename_i hlong
    obtain ⟨rfl, rfl⟩ := Prod.mk.inj (Option.some.inj h)
    have hlength : (k ++ (g ++ rest)).length - rest.length = (k ++ g).length := by
      simp only [List.length_append]
      omega
    refine ⟨k, g, rest.takeWhile isValueChar, rest.dropWhile isValueChar, hk, hg,
      ⟨Nat.not_lt.1 hlong, fun c hc => List.all_eq_true.1 List.all_takeWhile c hc⟩,
      endsValue_dropWhile rest, ?_, ?_, ?_⟩
    · rw [List.takeWhile_append_dropWhile]
    · rw [hlength, ← List.append_assoc, List.take_left]
    · rw [hlength, ← List.append_assoc]
      exact List.length_append.symm

/-- Every text that starts with a secret is found to. -/
theorem not_isSecret_of_secretAt? {s : List Char} (h : secretAt? s = none) {m : List Char}
    (hm : m <+: s) : ¬IsSecret m := by
  rintro ⟨hk, hg, hv⟩
  rename_i k g v
  obtain ⟨rest, rfl⟩ := hm
  have hkeyword : afterKeyword? (k ++ (g ++ v) ++ rest) = some (g ++ (v ++ rest)) :=
    (afterKeyword?_eq_some_iff _ _).2 ⟨k, hk, by simp only [List.append_assoc]⟩
  have hlong : ¬((v ++ rest).takeWhile isValueChar).length < leastValue := by
    have := hv.long
    rw [List.takeWhile_append_of_pos hv.plain, List.length_append]
    omega
  simp only [secretAt?, hkeyword, afterSign?_append hg hv, Option.bind_eq_bind, Option.bind_some,
    if_neg hlong] at h
  exact absurd h (by simp)

/-! ### Hiding -/

/-- What hiding does: the first secret is found, its value as long as it goes gives way to stars,
and hiding goes on behind it. -/
inductive Redacts : List Char → List Char → Prop where
  | nil : Redacts [] []
  | keep {c : Char} {s t : List Char} : (∀ m, m <+: c :: s → ¬IsSecret m) → Redacts s t →
      Redacts (c :: s) (c :: t)
  | hide {k g v s t : List Char} : IsKeyword k → IsSign g → IsValue v → EndsValue s →
      Redacts s t → Redacts (k ++ (g ++ (v ++ s))) (k ++ (g ++ (stars ++ t)))

theorem redactFrom_eq_drop (n : Nat) (s : List Char) :
    redactFrom n s = redactFrom 0 (s.drop n) := by
  induction s generalizing n with
  | nil => cases n <;> rfl
  | cons c s ih =>
    cases n with
    | zero => rfl
    | succ n => exact ih n

theorem redacts_redactFrom (s : List Char) : Redacts s (redactFrom 0 s) := by
  induction hn : s.length using Nat.strongRecOn generalizing s with
  | ind n ih =>
    cases s with
    | nil => exact .nil
    | cons c s =>
      rw [redactFrom]
      cases hsecret : secretAt? (c :: s) with
      | none =>
        refine .keep (fun m hm => not_isSecret_of_secretAt? hsecret hm) (ih s.length ?_ s rfl)
        rw [← hn, List.length_cons]
        omega
      | some found =>
        obtain ⟨kept, length⟩ := found
        obtain ⟨k, g, v, rest, hk, hg, hv, hend, hs, rfl, rfl⟩ := exists_of_secretAt? hsecret
        have hrest : s.drop ((k ++ (g ++ v)).length - 1) = rest := by
          obtain ⟨d, k', rfl⟩ := List.exists_cons_of_ne_nil hk.ne_nil
          rw [List.cons_append] at hs
          have hwhole : k' ++ (g ++ (v ++ rest)) = (k' ++ (g ++ v)) ++ rest := by
            simp only [List.append_assoc]
          rw [(List.cons.inj hs).2, List.cons_append, List.length_cons, Nat.add_sub_cancel, hwhole,
            List.drop_left]
        simp only
        rw [redactFrom_eq_drop, hrest, hs, List.append_assoc, List.append_assoc]
        refine .hide hk hg hv hend (ih rest.length ?_ rest rfl)
        have hkeyword := List.length_pos_iff.2 hk.ne_nil
        rw [← hn, hs]
        simp only [List.length_append]
        omega

/-! ### Nothing is left -/

theorem Redacts.endsValue {s t : List Char} (h : Redacts s t) (hs : EndsValue s) : EndsValue t := by
  cases h with
  | nil => exact hs
  | keep _ _ => exact hs
  | hide hk _ _ _ _ =>
    obtain ⟨c, k', hk'⟩ := List.exists_cons_of_ne_nil hk.ne_nil
    rw [hk'] at hs ⊢
    exact hs

/-- The stars are too short for a value. -/
theorem length_stars_lt : stars.length < leastValue := by decide

/-- Behind the stars there is no more of a value. -/
theorem length_le_of_stars {v s z : List Char} (hv : ∀ c ∈ v, isValueChar c = true)
    (hs : EndsValue s) (h : v ++ z = stars ++ s) : v.length ≤ stars.length := by
  have hstars : ∀ c ∈ stars, isValueChar c = true := by
    rw [← List.all_eq_true]
    decide
  have htaken : v ++ z.takeWhile isValueChar = stars := by
    rw [← List.takeWhile_append_of_pos hv, h, List.takeWhile_append_of_pos hstars,
      takeWhile_of_endsValue hs, List.append_nil]
  rw [← htaken, List.length_append]
  omega

/-- A text without stars ends before the stars, if it stands in front of them. -/
theorem exists_append_of_star_notMem {x y front t : List Char} (hx : '*' ∉ x)
    (h : front ++ (stars ++ t) = x ++ y) :
    ∃ kept, front = x ++ kept ∧ y = kept ++ (stars ++ t) := by
  rcases List.append_eq_append_iff.1 h with ⟨beyond, hbeyond, hrest⟩ | ⟨kept, hkept, hrest⟩
  · cases beyond with
    | nil => exact ⟨[], by simpa using hbeyond.symm, by simpa using hrest.symm⟩
    | cons c beyond =>
      obtain rfl : '*' = c := (List.cons.inj hrest).1
      exact absurd (hbeyond ▸ List.mem_append_right _ List.mem_cons_self) hx
  · exact ⟨kept, hkept, hrest⟩

/-- What looks like a value in a redacted text was one before, and no shorter. -/
theorem Redacts.exists_value {s t : List Char} (h : Redacts s t) {x v : List Char} (hx : '*' ∉ x)
    (hv : ∀ c ∈ v, isValueChar c = true) (hp : x ++ v <+: t) :
    ∃ v', (∀ c ∈ v', isValueChar c = true) ∧ v.length ≤ v'.length ∧ x ++ v' <+: s := by
  induction h generalizing x v with
  | nil => exact ⟨v, hv, Nat.le_refl _, hp⟩
  | @keep c s t _ _ ih =>
    cases x with
    | nil =>
      cases v with
      | nil => exact ⟨[], hv, Nat.le_refl _, List.nil_prefix⟩
      | cons d v =>
        obtain ⟨rfl, htail⟩ := List.cons_prefix_cons.1 hp
        obtain ⟨v', hv', hle, hp'⟩ :=
          ih (x := []) List.not_mem_nil (fun e he => hv e (List.mem_cons_of_mem _ he)) htail
        refine ⟨d :: v', ?_, ?_, List.cons_prefix_cons.2 ⟨rfl, hp'⟩⟩
        · exact List.forall_mem_cons.2 ⟨hv d List.mem_cons_self, hv'⟩
        · rw [List.length_cons, List.length_cons]
          omega
    | cons d x =>
      rw [List.cons_append] at hp
      obtain ⟨rfl, htail⟩ := List.cons_prefix_cons.1 hp
      obtain ⟨v', hv', hle, hp'⟩ := ih (fun hm => hx (List.mem_cons_of_mem _ hm)) hv htail
      exact ⟨v', hv', hle, List.cons_prefix_cons.2 ⟨rfl, hp'⟩⟩
  | @hide k g value s t _ _ hvalue hend hredacts _ =>
    obtain ⟨z, hz⟩ := hp
    -- What follows `x` is cut where the stars start.
    rw [← List.append_assoc k g, List.append_assoc x v] at hz
    obtain ⟨kept, hkept, hrest⟩ := exists_append_of_star_notMem hx hz.symm
    have hwhole : k ++ (g ++ (value ++ s)) = x ++ (kept ++ (value ++ s)) := by
      rw [← List.append_assoc, hkept, List.append_assoc]
    rw [hwhole]
    rcases List.append_eq_append_iff.1 hrest with ⟨more, rfl, -⟩ | ⟨beyond, rfl, hstars⟩
    · refine ⟨v, hv, Nat.le_refl _, more ++ (value ++ s), ?_⟩
      simp only [List.append_assoc]
    · have hbeyond := length_le_of_stars (fun c hc => hv c (List.mem_append_right _ hc))
        (hredacts.endsValue hend) hstars.symm
      have hlong := hvalue.long
      refine ⟨kept ++ value, ?_, ?_, s, by simp only [List.append_assoc]⟩
      · intro c hc
        rcases List.mem_append.1 hc with hc | hc
        · exact hv c (List.mem_append_left _ hc)
        · exact hvalue.plain c hc
      · rw [List.length_append, List.length_append]
        have := length_stars_lt
        omega

/-- No secret starts with a star. -/
theorem not_isSecret_of_star {s m : List Char} (hm : m <+: '*' :: s) : ¬IsSecret m := by
  rintro ⟨hk, -, -⟩
  obtain ⟨c, k', rfl⟩ := List.exists_cons_of_ne_nil hk.ne_nil
  obtain ⟨rfl, -⟩ := List.cons_prefix_cons.1 hm
  exact notMem_of_isKeyword hk (by decide) List.mem_cons_self

/-- Two texts with one sign each in front of their rests have one rest. -/
theorem eq_of_append_sign {a b s t : List Char} {c d : Char} (ha : ∀ e ∈ a, e ∉ [':', '='])
    (hb : ∀ e ∈ b, e ∉ [':', '=']) (hc : c ∈ [':', '=']) (hd : d ∈ [':', '='])
    (h : a ++ c :: s = b ++ d :: t) : s = t := by
  rcases List.append_eq_append_iff.1 h with ⟨between, rfl, hrest⟩ | ⟨between, rfl, hrest⟩
  · cases between with
    | nil => exact (List.cons.inj hrest).2
    | cons e between =>
      obtain rfl := (List.cons.inj hrest).1
      exact absurd hc (hb c (List.mem_append_right _ List.mem_cons_self))
  · cases between with
    | nil => exact (List.cons.inj hrest).2.symm
    | cons e between =>
      obtain rfl := (List.cons.inj hrest).1
      exact absurd hd (ha d (List.mem_append_right _ List.mem_cons_self))

theorem notMem_signs_of_keyword {k u : List Char} (hk : IsKeyword k) (hu : allBlank u = true) :
    ∀ e ∈ k ++ u, e ∉ [':', '='] := by
  intro e he hsign
  rcases List.mem_append.1 he with he | he
  · refine notMem_of_isKeyword hk ?_ he
    simp only [List.mem_cons, List.not_mem_nil, or_false] at hsign ⊢
    exact hsign.imp_right .inl
  · exact Bool.false_ne_true ((isBlank_of_sign hsign).symm.trans (isBlank_of_allBlank hu he))

/-- Behind a sign in front of stars there is no value. -/
theorem not_isValue_of_stars {w w' v z t : List Char} (hw : allBlank w = true)
    (hw' : allBlank w' = true) (ht : EndsValue t) (h : w ++ (v ++ z) = w' ++ (stars ++ t)) :
    ¬IsValue v := by
  intro hv
  have hstars : trimStart (w' ++ (stars ++ t)) = stars ++ t := by
    rw [trimStart_append hw']
    exact trimStart_cons (by decide) _
  have htrim : v ++ z = stars ++ t := by
    rw [← trimStart_append_value hw hv z, h, hstars]
  have hle := length_le_of_stars hv.plain ht htrim
  exact absurd (Nat.le_trans hv.long hle) (Nat.not_le.2 length_stars_lt)

/-- The end of a keyword with a sign behind it holds the sign, or is blank. -/
theorem sign_or_blanks {k u w q r : List Char} {c : Char} (hw : allBlank w = true)
    (hq : q ++ r = k ++ (u ++ c :: w)) :
    (∃ head, head ⊆ k ++ u ∧ r = head ++ c :: w) ∨ allBlank r = true := by
  rw [← List.append_assoc] at hq
  rcases List.append_eq_append_iff.1 hq with ⟨head, hhead, hr⟩ | ⟨beyond, -, hr⟩
  · exact .inl ⟨head, hhead ▸ List.subset_append_right q head, hr⟩
  · cases beyond with
    | nil => exact .inl ⟨[], List.nil_subset _, hr.symm⟩
    | cons d beyond =>
      have htail : w = beyond ++ r := (List.cons.inj hr).2
      rw [htail, allBlank, List.all_append, Bool.and_eq_true] at hw
      exact .inr hw.2

/-- A keyword with its sign does not begin in blanks in front of a star. -/
theorem no_sign_in_blanks {k u r s t : List Char} {c : Char} (hk : IsKeyword k)
    (hu : allBlank u = true) (hc : c ∈ [':', '=']) (hr : allBlank r = true) :
    (k ++ u) ++ c :: s ≠ r ++ (stars ++ t) := by
  intro h
  have hstar : c ≠ '*' := by
    rintro rfl
    exact absurd hc (by decide)
  rcases List.append_eq_append_iff.1 h with ⟨beyond, hbeyond, hrest⟩ | ⟨beyond, hbeyond, hrest⟩
  · cases beyond with
    | nil => exact hstar (List.cons.inj hrest).1
    | cons d beyond =>
      obtain rfl := (List.cons.inj hrest).1
      have hblank := isBlank_of_allBlank hr (hbeyond ▸ List.mem_append_right _ List.mem_cons_self)
      exact Bool.false_ne_true ((isBlank_of_sign hc).symm.trans hblank)
  · cases beyond with
    | nil => exact hstar (List.cons.inj hrest).1.symm
    | cons d beyond =>
      obtain rfl : '*' = d := (List.cons.inj hrest).1
      have hm : '*' ∈ k ++ u := hbeyond ▸ List.mem_append_right _ List.mem_cons_self
      rcases List.mem_append.1 hm with hm | hm
      · exact notMem_of_isKeyword hk (by decide) hm
      · exact absurd (isBlank_of_allBlank hu hm) (by decide)

/-- No secret starts inside the part that stays in front of the stars. -/
theorem not_isSecret_of_suffix {k g r t : List Char} (hk : IsKeyword k) (hg : IsSign g)
    (hr : r <:+ k ++ g) (ht : EndsValue t) {m : List Char} (hm : m <+: r ++ (stars ++ t)) :
    ¬IsSecret m := by
  rintro ⟨hk', hg', hv⟩
  rename_i k' g' v
  obtain ⟨hu, hw, hc⟩ := hg
  obtain ⟨hu', hw', hc'⟩ := hg'
  rename_i u w c u' w' c'
  obtain ⟨z, hz⟩ := hm
  obtain ⟨q, hq⟩ := hr
  have hsecret : (k' ++ u') ++ c' :: (w' ++ (v ++ z)) = r ++ (stars ++ t) := by
    rw [← hz]
    simp only [List.append_assoc, List.cons_append]
  -- The secret needs a sign in front of the stars, and there is just one.
  rcases sign_or_blanks hw hq with ⟨head, hhead, rfl⟩ | hblank
  · have hsigns := notMem_signs_of_keyword hk hu
    have hrest := eq_of_append_sign (notMem_signs_of_keyword hk' hu')
      (fun e he => hsigns e (hhead he)) hc' hc
      (hsecret.trans (List.append_assoc head (c :: w) (stars ++ t)))
    exact not_isValue_of_stars hw' hw ht hrest hv
  · exact no_sign_in_blanks hk' hu' hc' hblank hsecret

theorem star_notMem {k g : List Char} (hk : IsKeyword k) (hg : IsSign g) : '*' ∉ k ++ g := by
  obtain ⟨hu, hw, hc⟩ := hg
  intro hm
  rcases List.mem_append.1 hm with hm | hm
  · exact notMem_of_isKeyword hk (by decide) hm
  · rcases List.mem_append.1 hm with hm | hm
    · exact absurd (isBlank_of_allBlank hu hm) (by decide)
    · rcases List.mem_cons.1 hm with rfl | hm
      · exact absurd hc (by decide)
      · exact absurd (isBlank_of_allBlank hw hm) (by decide)

theorem IsSecret.ne_nil {m : List Char} (h : IsSecret m) : m ≠ [] := by
  obtain ⟨hk, -, -⟩ := h
  exact List.append_ne_nil_of_left_ne_nil hk.ne_nil _

/-- No secret starts within the stars. -/
theorem infix_of_isSecret {m t : List Char} (hm : m <:+: stars ++ t) (h : IsSecret m) :
    m <:+: t := by
  rcases List.infix_cons_iff.1 hm with hm | hm
  · exact absurd h (not_isSecret_of_star hm)
  · rcases List.infix_cons_iff.1 hm with hm | hm
    · exact absurd h (not_isSecret_of_star hm)
    · rcases List.infix_cons_iff.1 hm with hm | hm
      · exact absurd h (not_isSecret_of_star hm)
      · exact hm

theorem Redacts.not_isSecret {s t : List Char} (h : Redacts s t) {m : List Char} (hm : m <:+: t) :
    ¬IsSecret m := by
  intro hsecret
  induction h with
  | nil => exact hsecret.ne_nil (List.infix_nil.1 hm)
  | keep hnone hredacts ih =>
    rcases List.infix_cons_iff.1 hm with hm | hm
    · obtain ⟨hk, hg, hv⟩ := hsecret
      rw [← List.append_assoc] at hm
      obtain ⟨v, hplain, hle, hprefix⟩ :=
        (Redacts.keep hnone hredacts).exists_value (star_notMem hk hg) hv.plain hm
      rw [List.append_assoc] at hprefix
      exact hnone _ hprefix (.mk hk hg ⟨Nat.le_trans hv.long hle, hplain⟩)
    · exact ih hm
  | @hide k g v s t hk hg _ hend hredacts ih =>
    have ht := hredacts.endsValue hend
    rw [← List.append_assoc] at hm
    rcases List.infix_append_iff.1 hm with hm | hm | ⟨r, more, rfl, hr, hmore⟩
    · obtain ⟨before, behind, hwhole⟩ := hm
      refine not_isSecret_of_suffix hk hg (r := m ++ behind) (t := t) ⟨before, ?_⟩ ht ?_ hsecret
      · rw [← hwhole, List.append_assoc]
      · rw [List.append_assoc]
        exact List.prefix_append m _
    · exact ih (infix_of_isSecret hm hsecret)
    · exact not_isSecret_of_suffix hk hg hr ht ((List.prefix_append_right_inj r).2 hmore) hsecret

/-- A text without secrets stays as it is. -/
theorem redactFrom_eq_self {s : List Char} (h : ∀ m, m <:+: s → ¬IsSecret m) :
    redactFrom 0 s = s := by
  induction s with
  | nil => rfl
  | cons c s ih =>
    have hnone : secretAt? (c :: s) = none := by
      by_contra hne
      obtain ⟨⟨kept, n⟩, hfound⟩ := Option.ne_none_iff_exists'.1 hne
      obtain ⟨k, g, v, rest, hk, hg, hv, -, hs, -, -⟩ := exists_of_secretAt? hfound
      refine h (k ++ (g ++ v)) ⟨[], rest, ?_⟩ (.mk hk hg hv)
      rw [hs]
      simp only [List.nil_append, List.append_assoc]
    rw [redactFrom, hnone]
    exact congrArg (c :: ·) (ih fun m hm => h m (List.infix_cons hm))

/-- No secret is left, so nothing is to be hidden again; and only values give way, to stars. -/
theorem redact_leaves_no_secret (s : String) :
    (∀ m, m <:+: (redact s).toList → ¬IsSecret m) ∧ redact (redact s) = redact s ∧
      Redacts s.toList (redact s).toList := by
  have hredacts : Redacts s.toList (redact s).toList := by
    rw [redact, String.toList_ofList]
    exact redacts_redactFrom s.toList
  have hnone : ∀ m, m <:+: (redact s).toList → ¬IsSecret m := fun m hm => hredacts.not_isSecret hm
  refine ⟨hnone, ?_, hredacts⟩
  rw [redact, redactFrom_eq_self hnone, String.ofList_toList]

/-- A keyword that stands in a value is hidden with it. -/
example : redact "password=secret=abcd" = "password=***" := by decide +kernel

end PatchReview.Redaction
