import Mathlib.Data.List.TakeWhile
import PatchReview.Proofs.Text.Scan
import PatchReview.Proofs.Text.Trimming
import PatchReview.Text.Case

/-! Texts in lower case.

No range of capitals leads into another one (`avoids_of_mem`), so a text in lower case holds no
capital (`not_isCapital_of_mem_lowerFrom`) and stays as it is when it is put in lower case again
(`lower_lower`). Lower case makes no blanks either, so a name without blanks around it stays one
(`trimmed_lower_trimmed`). -/
namespace PatchReview.Text

/-! ### Ranges of capitals -/

namespace CaseRange

/-- The first number that a range leads to. -/
def low (r : CaseRange) : Nat := ((r.first : Int) + r.shift).toNat

/-- The last number that a range leads to. -/
def high (r : CaseRange) : Nat := ((r.last : Int) + r.shift).toNat

/-- No number that a range leads to is moved by the other: they lie before that range or behind it,
or each of them between two of its numbers. -/
def Avoids (r other : CaseRange) : Prop :=
  r.high < other.first ∨ other.last < r.low ∨
    (other.step = 2 ∧ (r.step = 2 ∨ r.first = r.last) ∧ (r.low + other.first) % 2 = 1)

instance (r other : CaseRange) : Decidable (r.Avoids other) := inferInstanceAs (Decidable (_ ∨ _))

theorem of_moved? {r : CaseRange} {n m : Nat} (h : r.moved? n = some m) :
    r.first ≤ n ∧ n ≤ r.last ∧ (n - r.first) % r.step = 0 ∧ m = ((n : Int) + r.shift).toNat := by
  unfold moved? at h
  split at h
  · rename_i hn
    exact ⟨hn.1, hn.2.1, hn.2.2, (Option.some.inj h).symm⟩
  · exact absurd h (Option.some_ne_none m).symm

/-- Where a range leads to. -/
theorem low_le_of_moved? {r : CaseRange} {n m : Nat} (h : r.moved? n = some m) :
    r.low ≤ m ∧ m ≤ r.high := by
  obtain ⟨hfirst, hlast, -, rfl⟩ := of_moved? h
  unfold low high
  omega

theorem Avoids.moved?_eq_none {r other : CaseRange} (h : r.Avoids other)
    (hpos : 0 ≤ (r.first : Int) + r.shift) {n m : Nat} (hm : r.moved? n = some m) :
    other.moved? m = none := by
  have hbounds := low_le_of_moved? hm
  obtain ⟨hfirst, hlast, hstep, hvalue⟩ := of_moved? hm
  rw [moved?, if_neg]
  rintro ⟨hlow, hhigh, hmod⟩
  rcases h with hbefore | hbehind | ⟨htwo, hsteps, hodd⟩
  · omega
  · omega
  · -- Both numbers are a multiple of two behind the first ones of their ranges.
    unfold low at hodd
    rw [htwo] at hmod
    rcases hsteps with hr | hone
    · rw [hr] at hstep
      omega
    · omega

end CaseRange

/-- The ranges of capitals, a few at a time. -/
def capitalBlocks : List (List CaseRange) :=
  (List.range 13).map fun i => (lowerRanges.drop (14 * i)).take 14

theorem flatten_capitalBlocks : capitalBlocks.flatten = lowerRanges := by
  decide +kernel

/-- Where a block of ranges starts and ends. -/
def blockBounds (block : List CaseRange) : Nat × Nat :=
  ((block.head?.map CaseRange.first).getD 0, (block.getLast?.map CaseRange.last).getD 0)

theorem mem_blockBounds : ∀ block ∈ capitalBlocks, ∀ r ∈ block,
    (blockBounds block).1 ≤ r.first ∧ r.last ≤ (blockBounds block).2 := by
  decide +kernel

/-- Most blocks are settled by where they start and end. -/
theorem avoids_block : ∀ block ∈ capitalBlocks, ∀ r ∈ lowerRanges,
    (r.high < (blockBounds block).1 ∨ (blockBounds block).2 < r.low) ∨
      ∀ other ∈ block, r.Avoids other := by
  decide +kernel

theorem avoids_of_mem {r other : CaseRange} (hr : r ∈ lowerRanges) (hother : other ∈ lowerRanges) :
    r.Avoids other := by
  rw [← flatten_capitalBlocks] at hother
  obtain ⟨block, hblock, hmem⟩ := List.mem_flatten.1 hother
  have hbounds := mem_blockBounds block hblock other hmem
  rcases avoids_block block hblock r hr with (hbefore | hbehind) | h
  · exact .inl (Nat.lt_of_lt_of_le hbefore hbounds.1)
  · exact .inr (.inl (Nat.lt_of_le_of_lt hbounds.2 hbehind))
  · exact h other hmem

/-- The ranges lead to no blanks, and not to the capital that becomes two characters. -/
theorem plain_lowerRanges : ∀ r ∈ lowerRanges, 0 ≤ (r.first : Int) + r.shift ∧
    ∀ n ∈ 0x130 :: blankNumbers, n < r.low ∨ r.high < n := by
  decide +kernel

/-! ### Capitals -/

/-- A character that is not its own lower case. -/
def IsCapital (c : Char) : Prop := c = 'İ' ∨ ∃ r ∈ lowerRanges, r.moved? c.toNat ≠ none

instance (c : Char) : Decidable (IsCapital c) := inferInstanceAs (Decidable (_ ∨ _))

theorem not_isCapital_iff (c : Char) :
    ¬IsCapital c ↔ c ≠ 'İ' ∧ ∀ r ∈ lowerRanges, r.moved? c.toNat = none := by
  simp [IsCapital]

/-- Below the first accented letter the capitals are those from `A` to `Z`. -/
theorem isCapital_iff_of_lt {c : Char} (h : c.toNat < 128) :
    IsCapital c ↔ 65 ≤ c.toNat ∧ c.toNat ≤ 90 := by
  have hranges : ∀ r ∈ lowerRanges, r = ⟨65, 90, 1, 32⟩ ∨ 128 ≤ r.first := by decide +kernel
  constructor
  · rintro (rfl | ⟨r, hr, hmoved⟩)
    · exact absurd h (by decide)
    · obtain ⟨m, hm⟩ := Option.ne_none_iff_exists'.1 hmoved
      obtain ⟨hfirst, hlast, -, -⟩ := CaseRange.of_moved? hm
      rcases hranges r hr with rfl | hbeyond
      · exact ⟨hfirst, hlast⟩
      · omega
  · intro hletter
    refine .inr ⟨⟨65, 90, 1, 32⟩, by decide +kernel, ?_⟩
    rw [CaseRange.moved?, if_pos ⟨hletter.1, hletter.2, Nat.mod_one _⟩]
    exact Option.some_ne_none _

theorem toNat_toLower (c : Char) :
    c.toLower.toNat = if 65 ≤ c.toNat ∧ c.toNat ≤ 90 then c.toNat + 32 else c.toNat := by
  unfold Char.toLower
  split
  · rename_i h
    have hlow : 65 ≤ c.toNat := UInt32.le_iff_toNat_le.1 h.1
    have hhigh : c.toNat ≤ 90 := UInt32.le_iff_toNat_le.1 h.2
    have hsum : (c.val + 32).toNat = (c.toNat + 32) % 4294967296 := UInt32.toNat_add c.val 32
    rw [if_pos ⟨hlow, hhigh⟩]
    exact hsum.trans (Nat.mod_eq_of_lt (by omega))
  · rename_i h
    rw [if_neg]
    exact fun hletter =>
      h ⟨UInt32.le_iff_toNat_le.2 hletter.1, UInt32.le_iff_toNat_le.2 hletter.2⟩

theorem lowerChar_of_not_isCapital {c : Char} (h : ¬IsCapital c) : lowerChar c = c := by
  have ⟨hdotted, hranges⟩ := (not_isCapital_iff c).1 h
  by_cases hlt : c.toNat < 128
  · rw [lowerChar, if_pos hlt]
    refine Char.toNat_inj.1 ?_
    rw [toNat_toLower, if_neg fun hletter => h ((isCapital_iff_of_lt hlt).2 hletter)]
  · have hne : c.toNat ≠ 0x130 := fun he => hdotted (Char.toNat_inj.1 he)
    simp only [lowerChar, if_neg hlt, if_neg hne, List.findSome?_eq_none_iff.2 hranges]
    rfl

/-- A capital in lower case is what a range leads to. -/
theorem exists_moved?_of_isCapital {c : Char} (h : IsCapital c) :
    lowerChar c = 'i' ∨
      ∃ r ∈ lowerRanges, ∃ m, r.moved? c.toNat = some m ∧ lowerChar c = Char.ofNat m := by
  by_cases hlt : c.toNat < 128
  · have hletter := (isCapital_iff_of_lt hlt).1 h
    have hvalid : (c.toNat + 32).isValidChar := .inl (by omega)
    refine .inr ⟨⟨65, 90, 1, 32⟩, by decide +kernel, c.toNat + 32, ?_, ?_⟩
    · rw [CaseRange.moved?, if_pos ⟨hletter.1, hletter.2, Nat.mod_one _⟩]
      rfl
    · refine Char.toNat_inj.1 ?_
      rw [lowerChar, if_pos hlt, toNat_toLower, if_pos hletter, Char.ofNat, dif_pos hvalid]
      rfl
  · by_cases hdotted : c.toNat = 0x130
    · exact .inl (by rw [lowerChar, if_neg hlt, if_pos hdotted])
    · have hmoved : ∃ r ∈ lowerRanges, r.moved? c.toNat ≠ none :=
        h.resolve_left fun he => hdotted (he ▸ rfl)
      cases hfind : lowerRanges.findSome? (·.moved? c.toNat) with
      | none =>
        obtain ⟨r, hr, hne⟩ := hmoved
        exact absurd (List.findSome?_eq_none_iff.1 hfind r hr) hne
      | some m =>
        obtain ⟨r, hr, hm⟩ := List.exists_of_findSome?_eq_some hfind
        refine .inr ⟨r, hr, m, hm, ?_⟩
        simp only [lowerChar, if_neg hlt, if_neg hdotted, hfind]
        rfl

/-- A number in lower case, as a character: it has that number, or none. -/
theorem toNat_ofNat_cases (m : Nat) : (Char.ofNat m).toNat = m ∨ (Char.ofNat m).toNat = 0 := by
  by_cases h : m.isValidChar
  · exact .inl (by rw [Char.ofNat, dif_pos h]; rfl)
  · exact .inr (by rw [Char.ofNat, dif_neg h]; rfl)

theorem not_isCapital_lowerChar (c : Char) : ¬IsCapital (lowerChar c) := by
  by_cases h : IsCapital c
  · rcases exists_moved?_of_isCapital h with hi | ⟨r, hr, m, hm, hlower⟩
    · rw [hi]
      decide +kernel
    · rw [hlower]
      have ⟨hpos, hplain⟩ := plain_lowerRanges r hr
      have hbounds := CaseRange.low_le_of_moved? hm
      rcases toNat_ofNat_cases m with hnat | hzero
      · refine (not_isCapital_iff _).2 ⟨fun hdotted => ?_, fun other hother => ?_⟩
        · have hvalue : m = 0x130 := by
            rw [← hnat, hdotted]
            rfl
          have := hplain 0x130 List.mem_cons_self
          omega
        · rw [hnat]
          exact (avoids_of_mem hr hother).moved?_eq_none hpos hm
      · rw [isCapital_iff_of_lt (by omega)]
        omega
  · rwa [lowerChar_of_not_isCapital h]

theorem isBlank_lowerChar {c : Char} (h : isBlank c = false) : isBlank (lowerChar c) = false := by
  by_cases hcapital : IsCapital c
  · rcases exists_moved?_of_isCapital hcapital with hi | ⟨r, hr, m, hm, hlower⟩
    · rw [hi]
      decide
    · rw [hlower]
      have hbounds := CaseRange.low_le_of_moved? hm
      refine Bool.eq_false_iff.2 fun hblank => ?_
      have hmem := mem_blankNumbers hblank
      rcases toNat_ofNat_cases m with hnat | hzero
      · rw [hnat] at hmem
        have := (plain_lowerRanges r hr).2 m (List.mem_cons_of_mem _ hmem)
        omega
      · rw [hzero] at hmem
        exact absurd hmem (by decide)
  · rwa [lowerChar_of_not_isCapital hcapital]

/-! ### Texts -/

/-- One character in lower case, in front of the rest of its text. -/
theorem lowerFrom_cons (before : List Char) (c : Char) (s : List Char) :
    ∃ d here, lowerFrom before (c :: s) = d :: here ++ lowerFrom (c :: before) s ∧
      (∀ e ∈ d :: here, ¬IsCapital e) ∧
        (isBlank c = false → ∀ e ∈ d :: here, isBlank e = false) := by
  rw [lowerFrom]
  by_cases hsigma : c = 'Σ'
  · have hplain : ∀ e ∈ ['ς', 'σ'], ¬IsCapital e ∧ isBlank e = false :=
      List.forall_mem_cons.2 ⟨by decide +kernel, List.forall_mem_singleton.2 (by decide +kernel)⟩
    have hmem : (if endsWord before s then 'ς' else 'σ') ∈ ['ς', 'σ'] := by
      split
      · exact List.mem_cons_self
      · exact List.mem_cons_of_mem _ List.mem_cons_self
    refine ⟨if endsWord before s then 'ς' else 'σ', [], ?_, ?_, ?_⟩
    · rw [if_pos (beq_iff_eq.2 hsigma)]
    · exact fun e he => List.mem_singleton.1 he ▸ (hplain _ hmem).1
    · exact fun _ e he => List.mem_singleton.1 he ▸ (hplain _ hmem).2
  · by_cases hdotted : c = 'İ'
    · have hplain : ∀ e ∈ ['i', Char.ofNat 0x307], ¬IsCapital e ∧ isBlank e = false :=
        List.forall_mem_cons.2 ⟨by decide +kernel, List.forall_mem_singleton.2 (by decide +kernel)⟩
      refine ⟨'i', [Char.ofNat 0x307], ?_, ?_, fun _ e he => (hplain e he).2⟩
      · rw [if_neg (by simpa using hsigma), if_pos (beq_iff_eq.2 hdotted)]
      · exact fun e he => (hplain e he).1
    · refine ⟨lowerChar c, [], ?_, ?_, ?_⟩
      · rw [if_neg (by simpa using hsigma), if_neg (by simpa using hdotted)]
      · exact fun e he => List.mem_singleton.1 he ▸ not_isCapital_lowerChar c
      · exact fun hc e he => List.mem_singleton.1 he ▸ isBlank_lowerChar hc

/-- A text in lower case holds no capital. -/
theorem not_isCapital_of_mem_lowerFrom {before s : List Char} {d : Char}
    (h : d ∈ lowerFrom before s) : ¬IsCapital d := by
  induction s generalizing before with
  | nil => exact absurd h List.not_mem_nil
  | cons c s ih =>
    obtain ⟨first, here, heq, hhere, -⟩ := lowerFrom_cons before c s
    rw [heq] at h
    exact (List.mem_append.1 h).elim (hhere d) ih

theorem lowerFrom_of_not_isCapital {before s : List Char} (h : ∀ c ∈ s, ¬IsCapital c) :
    lowerFrom before s = s := by
  induction s generalizing before with
  | nil => rfl
  | cons c s ih =>
    have hc := h c List.mem_cons_self
    have hsigma : c ≠ 'Σ' := fun he => hc (he ▸ by decide +kernel)
    have hdotted : c ≠ 'İ' := fun he => hc (.inl he)
    rw [lowerFrom, if_neg (by simpa using hsigma), if_neg (by simpa using hdotted),
      lowerChar_of_not_isCapital hc, ih fun d hd => h d (List.mem_cons_of_mem _ hd)]
    rfl

/-- A text in lower case is its own lower case. -/
@[simp]
theorem lower_lower (s : String) : lower (lower s) = lower s := by
  rw [lower, lower, String.toList_ofList,
    lowerFrom_of_not_isCapital fun _ => not_isCapital_of_mem_lowerFrom]

/-! ### Texts without blanks around them -/

theorem trimEnd_of_not_blank {s : List Char} (h : ∀ c ∈ s, isBlank c = false) : trimEnd s = s := by
  induction s with
  | nil => rfl
  | cons c s ih =>
    rw [trimEnd_cons_of_not_blank s (h c List.mem_cons_self),
      ih fun d hd => h d (List.mem_cons_of_mem _ hd)]

/-- Lower case makes no blanks at the end of a text. -/
theorem trimEnd_lowerFrom (before : List Char) {s : List Char} (h : trimEnd s = s) :
    trimEnd (lowerFrom before s) = lowerFrom before s := by
  induction s generalizing before with
  | nil => rfl
  | cons c s ih =>
    obtain ⟨d, here, heq, -, hblank⟩ := lowerFrom_cons before c s
    rw [heq]
    by_cases hs : trimEnd s = []
    · -- The character is the last one, and so it is not blank.
      have hc : isBlank c = false ∧ s = [] := by
        rw [trimEnd_cons, if_pos hs] at h
        cases hc : isBlank c <;> simp_all
      rw [hc.2, lowerFrom, List.append_nil]
      exact trimEnd_of_not_blank (hblank hc.1)
    · have hrest : trimEnd s = s :=
        List.tail_eq_of_cons_eq ((trimEnd_cons_of_ne_nil c hs).symm.trans h)
      have hne : lowerFrom (c :: before) s ≠ [] := by
        cases s with
        | nil => exact absurd rfl hs
        | cons c' s =>
          obtain ⟨d', here', heq', -⟩ := lowerFrom_cons (c :: before) c' s
          exact heq' ▸ List.cons_ne_nil _ _
      have hih := ih (c :: before) hrest
      rw [trimEnd_append_of_ne_nil _ (by rwa [hih]), hih]

/-- A text that is not blank, without the blanks around it. -/
theorem exists_trim_eq {s : List Char} (h : allBlank s = false) :
    ∃ c t, trim s = c :: t ∧ isBlank c = false ∧ trimEnd (c :: t) = c :: t := by
  have hne : trimStart s ≠ [] := by
    intro he
    rw [trimStart, List.dropWhile_eq_nil_iff] at he
    rw [allBlank, List.all_eq_true.2 he] at h
    exact absurd h (by decide)
  obtain ⟨c, t, ht⟩ := List.exists_cons_of_ne_nil hne
  have hc : isBlank c = false := by
    have hhead := List.head?_dropWhile_not isBlank s
    rw [show s.dropWhile isBlank = c :: t from ht] at hhead
    simpa only [List.head?_cons] using hhead
  have htrim : trim s = c :: trimEnd t := by rw [trim, ht, trimEnd_cons_of_not_blank t hc]
  refine ⟨c, trimEnd t, htrim, hc, ?_⟩
  rw [trimEnd_cons_of_not_blank _ hc, trimEnd_trimEnd]

/-- A name in lower case and without blanks around it stays as it is. -/
theorem trimmed_lower_trimmed {s : String} (h : isBlankText s = false) :
    isBlankText (lower (trimmed s)) = false ∧
      trimmed (lower (trimmed s)) = lower (trimmed s) := by
  obtain ⟨c, t, htrim, hc, hend⟩ := exists_trim_eq h
  obtain ⟨d, here, heq, -, hblank⟩ := lowerFrom_cons [] c t
  have hd : isBlank d = false := hblank hc d List.mem_cons_self
  have hkept := trimEnd_lowerFrom [] hend
  have hlower : (lower (trimmed s)).toList = d :: here ++ lowerFrom [c] t := by
    rw [lower, trimmed, String.toList_ofList, String.toList_ofList, htrim, heq]
  rw [heq] at hkept
  constructor
  · rw [isBlankText, hlower, List.cons_append, allBlank, List.all_cons, hd, Bool.false_and]
  · rw [trimmed, hlower, trim, List.cons_append, trimStart_cons hd, ← List.cons_append, hkept,
      ← hlower, String.ofList_toList]

end PatchReview.Text
