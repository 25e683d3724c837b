import Mathlib.Data.List.TakeWhile
import PatchReview.Proofs.Text.Numeral

/-! Texts that are made of digits.

What only stands for a digit passes for one until a number is made of it: of a run of characters
that look like digits an integer is read exactly if all of them are decimal digits and there are
not too many (`readInteger_of_isPlainRun`, `readInteger_of_not_isPlainRun`). -/
namespace PatchReview.Text

/-! ### Characters that look like digits -/

theorem Ranges.exists_of_search {table : Ranges} {n lo hi : Nat} (h : search table n lo hi = true) :
    ∃ range ∈ table, range.1 ≤ n ∧ n ≤ range.2 := by
  fun_induction search table n lo hi with
  | case1 => exact absurd h Bool.false_ne_true
  | case2 lo hi hlt mid first last hmid hbelow ih => exact ih h
  | case3 lo hi hlt mid first last hmid hbelow habove ih => exact ih h
  | case4 lo hi hlt mid first last hmid hbelow habove =>
    exact ⟨(first, last), Array.mem_of_getElem? hmid, Nat.not_lt.1 hbelow, Nat.not_lt.1 habove⟩
  | case5 => exact absurd h Bool.false_ne_true

/-- What looks like a digit is no blank, no sign and no underscore. -/
theorem not_mark_of_isDigitLike {c : Char} (h : isDigitLike c = true) :
    isBlank c = false ∧ c ∉ ['+', '-', '_'] := by
  rcases Bool.or_eq_true_iff.1 h with hdigit | hother
  · refine ⟨Bool.eq_false_iff.2 fun hblank => ?_, fun hmark => ?_⟩
    · rw [isDigit_of_isBlank hblank] at hdigit
      exact Bool.false_ne_true hdigit
    · have hmarks : ['+', '-', '_'].any isDigit = false := by decide
      exact absurd hdigit (List.any_eq_false.1 hmarks c hmark)
  · obtain ⟨range, hrange, hlow, hhigh⟩ := Ranges.exists_of_search hother
    have hnone : ∀ range ∈ otherDigitRanges,
        ∀ n ∈ ['+', '-', '_'].map Char.toNat ++ blankNumbers, ¬(range.1 ≤ n ∧ n ≤ range.2) := by
      decide
    refine ⟨Bool.eq_false_iff.2 fun hblank => ?_, fun hmark => ?_⟩
    · exact hnone range hrange _ (List.mem_append_right _ (mem_blankNumbers hblank)) ⟨hlow, hhigh⟩
    · exact hnone range hrange _ (List.mem_append_left _ (List.mem_map_of_mem hmark)) ⟨hlow, hhigh⟩

theorem isBlank_of_numeralBlank {c : Char} (h : numeralBlank c = true) : isBlank c = true := by
  simp only [numeralBlank, Bool.or_eq_true, Bool.and_eq_true, decide_eq_true_eq, beq_iff_eq] at h
  rcases h with (rfl | hrange) | hbeyond
  · decide
  · simp only [isBlank, Bool.or_eq_true, Bool.and_eq_true, decide_eq_true_eq, beq_iff_eq]
    omega
  · exact hbeyond.2

theorem numeralBlank_of_isDigitLike {c : Char} (h : isDigitLike c = true) :
    numeralBlank c = false := by
  rw [Bool.eq_false_iff]
  intro hblank
  have hfalse := (not_mark_of_isDigitLike h).1
  rw [isBlank_of_numeralBlank hblank] at hfalse
  exact Bool.false_ne_true hfalse.symm

/-! ### Runs of them -/

/-- A run of one character or more, each of which looks like a digit. -/
structure IsRun (s : List Char) : Prop where
  ne_nil : s ≠ []
  digitLike : ∀ c ∈ s, isDigitLike c = true

/-- Decimal digits, and not too many. -/
structure IsPlainRun (s : List Char) : Prop where
  digit : ∀ c ∈ s, isDigit c = true
  length_le : s.length ≤ digitLimit

/-- Digits alone are well grouped. -/
theorem wellGrouped_of_digits {s : List Char} (hne : s ≠ []) (h : ∀ c ∈ s, isDigit c = true) :
    wellGrouped s = true := by
  have hmark : '_' ∉ s := fun hm => absurd (h _ hm) (by decide)
  fun_induction wellGrouped s with
  | case1 => exact absurd rfl hne
  | case2 c => exact h c List.mem_cons_self
  | case3 => exact absurd List.mem_cons_self hmark
  | case4 => exact absurd (by simp) hmark
  | case5 => exact absurd (by simp) hmark
  | case6 c s hs _ _ _ ih =>
    refine ih hs (fun d hd => h d (List.mem_cons_of_mem _ hd)) fun hm => ?_
    exact hmark (List.mem_cons_of_mem _ hm)

section
variable {text : String} (h : IsRun text.toList)
include h

theorem digitRun_of_isRun :
    digitRun text.toList = (text.toList.takeWhile isDigit, text.toList.dropWhile isDigit) := by
  have hsame : ∀ s : List Char, (∀ c ∈ s, isDigitLike c = true) →
      digitRun s = (s.takeWhile isDigit, s.dropWhile isDigit) := by
    intro s hs
    rw [digitRun, List.span_eq_takeWhile_dropWhile]
    induction s with
    | nil => rfl
    | cons c s ih =>
      have hc : (c == '_') = false := by
        rw [beq_eq_false_iff_ne]
        rintro rfl
        exact (not_mark_of_isDigitLike (hs _ List.mem_cons_self)).2 (by decide)
      have hrest := Prod.mk.inj (ih fun d hd => hs d (List.mem_cons_of_mem _ hd))
      simp only [List.takeWhile_cons, List.dropWhile_cons, hc, Bool.or_false, hrest.1, hrest.2]
  exact hsame _ h.digitLike

/-- Neither blanks nor a sign stand in front of a run. -/
theorem readInteger_of_isRun :
    readInteger text =
      if wellGrouped (text.toList.takeWhile isDigit) then
        match readNatural (text.toList.takeWhile isDigit) with
        | .error e => .error e
        | .ok n =>
          if (text.toList.dropWhile isDigit).all numeralBlank then .ok n
          else .error (.malformed text)
      else .error (.malformed text) := by
  obtain ⟨c, s, hs⟩ := List.exists_cons_of_ne_nil h.ne_nil
  have hc : isDigitLike c = true := h.digitLike c (hs ▸ List.mem_cons_self)
  have hfront : text.toList.dropWhile numeralBlank = text.toList := by
    rw [hs, List.dropWhile_cons_of_neg (by simp [numeralBlank_of_isDigitLike hc])]
  have hfilter : (text.toList.takeWhile isDigit).filter (· ≠ '_') =
      text.toList.takeWhile isDigit := by
    refine List.filter_eq_self.2 fun d hd => decide_eq_true ?_
    rintro rfl
    exact absurd (List.mem_takeWhile_imp hd) (by decide)
  have hunsigned : takeSign text.toList = (false, text.toList) := by
    have hmark := (not_mark_of_isDigitLike hc).2
    unfold takeSign
    split
    · rename_i hsign
      rw [(List.cons.inj (hs.symm.trans hsign)).1] at hmark
      exact absurd (by decide) hmark
    · rename_i hsign
      rw [(List.cons.inj (hs.symm.trans hsign)).1] at hmark
      exact absurd (by decide) hmark
    · rfl
  have hrun := digitRun_of_isRun h
  by_cases hgrouped : wellGrouped (text.toList.takeWhile isDigit) = true
  · cases hread : readNatural (text.toList.takeWhile isDigit) with
    | error e => simp only [readInteger, hfront, hunsigned, hrun, hfilter, if_pos hgrouped, hread]
    | ok n =>
      simp only [readInteger, hfront, hunsigned, hrun, hfilter, if_pos hgrouped, hread,
        Bool.false_eq_true, if_false]
  · simp only [readInteger, hfront, hunsigned, hrun, if_neg hgrouped]

/-- Decimal digits write their number. -/
theorem readInteger_of_isPlainRun (hplain : IsPlainRun text.toList) :
    readInteger text = .ok (digitsValue text.toList) := by
  have htake : text.toList.takeWhile isDigit = text.toList :=
    List.takeWhile_eq_self_iff.2 hplain.digit
  have hdrop : text.toList.dropWhile isDigit = [] := List.dropWhile_eq_nil_iff.2 hplain.digit
  have hread : readNatural text.toList = .ok (digitsValue text.toList) :=
    if_neg (by simpa using hplain.length_le)
  rw [readInteger_of_isRun h, htake, hdrop, if_pos (wellGrouped_of_digits h.ne_nil hplain.digit),
    hread]
  rfl

/-- Other runs write no integer. -/
theorem readInteger_of_not_isPlainRun (hplain : ¬IsPlainRun text.toList) :
    ∃ e, readInteger text = .error e := by
  rw [readInteger_of_isRun h]
  split
  · split
    · exact ⟨_, rfl⟩
    · rename_i n hread
      split
      · rename_i hblank
        refine absurd ?_ hplain
        -- What is behind the decimal digits looks like digits, so none of it is blank.
        have hrest : text.toList.dropWhile isDigit = [] := by
          refine List.eq_nil_iff_forall_not_mem.2 fun c hc => ?_
          have hdigit := numeralBlank_of_isDigitLike
            (h.digitLike c ((List.dropWhile_suffix isDigit).subset hc))
          exact absurd (List.all_eq_true.1 hblank c hc) (by simp [hdigit])
        have hall := List.dropWhile_eq_nil_iff.1 hrest
        rw [List.takeWhile_eq_self_iff.2 hall] at hread
        refine ⟨hall, ?_⟩
        by_contra hlong
        rw [readNatural, readNaturalWithin, if_pos (by simpa using hlong)] at hread
        exact absurd hread (by simp)
      · exact ⟨_, rfl⟩
  · exact ⟨_, rfl⟩

end

end PatchReview.Text
