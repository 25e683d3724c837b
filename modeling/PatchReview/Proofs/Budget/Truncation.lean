import PatchReview.Budget.Truncation
import PatchReview.Proofs.Text.Encoding
import PatchReview.Proofs.Text.Lines

/-! A text that is cut down comes below its cap.

Comments are added to the important lines until one more would be too much (`addRemarks_eq`). While
the text is too long then, it is cut, each time by one character at least (`length_cutOnce_lt`), and
the empty text takes no tokens. So the cuts come to an end (`shrink_cutsDown`), and a cap that is
not below zero is always met (`enforceCap_le`). What is put in place of a text never takes more than
the text. -/
namespace PatchReview

/-! ### Signs -/

namespace Binary64

theorem isNegative_ofRatio (negative : Bool) (num den : Nat) :
    (ofRatio negative num den).isNegative = negative := by
  simp only [ofRatio, ofPositiveRatio, apply_ite isNegative]
  simp only [isNegative, ite_self]

theorem isNegative_mul {x y : Binary64} (hx : x.isNegative = false) (hy : y.isNegative = false) :
    (x.mul y).isNegative = false := by
  cases x with
  | nan => cases y <;> rfl
  | infinite =>
    cases y with
    | nan => rfl
    | infinite | finite =>
      simp only [mul, apply_ite isNegative, hx, hy]
      exact ite_self _
  | finite s =>
    cases y with
    | nan => rfl
    | infinite =>
      simp only [mul, apply_ite isNegative, hx, hy]
      exact ite_self _
    | finite t =>
      obtain rfl : s = false := hx
      obtain rfl : t = false := hy
      exact isNegative_ofRatio _ _ _

theorem truncate?_nonneg {x : Binary64} (h : x.isNegative = false) : 0 ≤ x.truncate?.getD 0 := by
  cases x with
  | nan => exact Int.le_refl 0
  | infinite negative => exact Int.le_refl 0
  | finite negative mantissa exponent =>
    obtain rfl : negative = false := h
    exact Int.natCast_nonneg _

end Binary64

namespace Budget

open Text

/-! ### One step -/

theorem length_cutTo_lt {n : Int} {text : String} (hn : n < text.length) (hlen : 0 < text.length) :
    (cutTo n text).length < text.length := by
  rw [cutTo, String.length_ofList, List.length_take, String.length_toList]
  split <;> omega

theorem length_cutOnce_lt (cap : Int) {text : String} (tokens : Nat) (hlen : 0 < text.length) :
    (cutOnce cap text tokens).length < text.length := by
  refine length_cutTo_lt ?_ hlen
  omega

/-- A cap that is not below zero has a share in every text. -/
theorem shareFault?_of_nonneg {cap : Int} (h : 0 ≤ cap) (tokens length : Nat) :
    shareFault? cap tokens length = none := by
  rw [shareFault?, if_pos h]

theorem shareOf_nonneg {cap : Int} (h : 0 ≤ cap) (tokens length : Nat) :
    0 ≤ shareOf cap tokens length := by
  refine Binary64.truncate?_nonneg (Binary64.isNegative_mul ?_ ?_)
  · exact (Binary64.isNegative_ofRatio _ _ _).trans (decide_eq_false (by omega))
  · exact (Binary64.isNegative_ofRatio _ _ _).trans (decide_eq_false (by omega))

/-- A cut leaves the beginning of a text. -/
theorem toList_cutOnce_isPrefix (cap : Int) (text : String) (tokens : Nat) :
    (cutOnce cap text tokens).toList <+: text.toList := by
  rw [cutOnce, cutTo, String.toList_ofList]
  exact List.take_prefix _ _

/-! ### The lines that are kept -/

/-- The important lines and the first comments. -/
def keptLines (text : String) (k : Nat) : List (List Char) :=
  importantLines text ++ (remarkLines text).take k

def keptText (text : String) (k : Nat) : String := String.ofList (joinLines (keptLines text k))

theorem mem_keptLines {text : String} {k : Nat} {line : List Char} (h : line ∈ keptLines text k) :
    line ∈ linesOf text ∧ 2 ≤ linePriority line := by
  rcases List.mem_append.1 h with h | h
  · have ⟨hmem, hpriority⟩ := List.mem_filter.1 h
    exact ⟨hmem, Nat.le_of_succ_le (of_decide_eq_true hpriority)⟩
  · have ⟨hmem, hpriority⟩ := List.mem_filter.1 (List.mem_of_mem_take h)
    exact ⟨hmem, Nat.le_of_eq (eq_of_beq hpriority).symm⟩

theorem keptLines_zero (text : String) : keptLines text 0 = importantLines text := by
  rw [keptLines, List.take_zero, List.append_nil]

theorem newline_notMem_of_mem_keptLines {text : String} {k : Nat} {line : List Char}
    (h : line ∈ keptLines text k) : '\n' ∉ line :=
  (mem_of_mem_splitNewlines (mem_keptLines h).1).1

theorem ne_nil_of_mem_keptLines {text : String} {k : Nat} {line : List Char}
    (h : line ∈ keptLines text k) : line ≠ [] := by
  rintro rfl
  exact absurd (mem_keptLines h).2 (by decide)

/-- One line more. -/
theorem withLine_joinLines {lines : List (List Char)} (h : ∀ line ∈ lines, line ≠ [])
    (line : List Char) : withLine (String.ofList (joinLines lines)) line =
      String.ofList (joinLines (lines ++ [line])) := by
  rcases lines with _ | ⟨first, rest⟩
  · rfl
  · obtain ⟨c, s, rfl⟩ := List.exists_cons_of_ne_nil (h first List.mem_cons_self)
    have hempty : (String.ofList (joinLines ((c :: s) :: rest))).isEmpty = false := by
      rw [String.isEmpty_eq_false_iff, ne_eq, ← String.toList_eq_nil_iff, String.toList_ofList]
      cases rest <;> exact List.cons_ne_nil _ _
    rw [withLine, hempty, if_neg Bool.false_ne_true, joinLines_concat (List.cons_ne_nil _ rest)]
    exact String.toList_inj.1 (by simp)

theorem withLine_keptText {text : String} {k : Nat} {line : List Char}
    (h : (remarkLines text)[k]? = some line) :
    withLine (keptText text k) line = keptText text (k + 1) := by
  rw [keptText, withLine_joinLines fun _ => ne_nil_of_mem_keptLines, keptText, keptLines, keptLines,
    List.take_add_one, h, List.append_assoc]
  rfl

section
variable (estimate : String → Nat) (cap : Int)

/-- As many comments as fit: with one more the text is too long. -/
structure Fits (text : String) (k : Nat) : Prop where
  le_length : k ≤ (remarkLines text).length
  /-- Only the important lines alone may be too long. -/
  le_cap : 0 < k → (estimate (keptText text k) : Int) ≤ cap
  full : k < (remarkLines text).length → cap < estimate (keptText text (k + 1))

/-- The comments that are added, if some of them are there already. -/
theorem addRemarks_eq (text : String) {k : Nat} {lines : List (List Char)}
    (hlines : (remarkLines text).drop k = lines) (hk : k ≤ (remarkLines text).length)
    (hcap : 0 < k → (estimate (keptText text k) : Int) ≤ cap) :
    ∃ n, addRemarks (m := Id) (fun s => pure (estimate s)) cap (keptText text k)
        (estimate (keptText text k)) lines = pure (keptText text n, estimate (keptText text n)) ∧
      Fits estimate cap text n := by
  induction lines generalizing k with
  | nil =>
    have hlength : (remarkLines text).length ≤ k := List.drop_eq_nil_iff.1 hlines
    exact ⟨k, rfl, hk, hcap, fun hlt => absurd hlt (Nat.not_lt.2 hlength)⟩
  | cons line rest ih =>
    have hlt : k < (remarkLines text).length := by
      refine Nat.lt_of_not_le fun hle => ?_
      rw [List.drop_eq_nil_iff.2 hle] at hlines
      exact List.cons_ne_nil line rest hlines.symm
    rw [List.drop_eq_getElem_cons hlt, List.cons.injEq] at hlines
    have hnext := withLine_keptText (List.getElem?_eq_some_iff.2 ⟨hlt, hlines.1⟩)
    rw [addRemarks, hnext]
    by_cases hover : cap < (estimate (keptText text (k + 1)) : Int)
    · exact ⟨k, if_pos hover, hk, hcap, fun _ => hover⟩
    · obtain ⟨n, hrun, hfits⟩ := ih hlines.2 hlt fun _ => Int.not_lt.1 hover
      exact ⟨n, (if_neg hover).trans hrun, hfits⟩

/-! ### All cuts -/

/-- Cutting a text down until it is below the cap. Each cut divides by a number of tokens that is
not zero and leaves a number of characters that is not below zero. -/
inductive CutsDown : String → String → Prop where
  | done {text : String} : (estimate text : Int) ≤ cap → CutsDown text text
  | cut {text t : String} : cap < estimate text → estimate text ≠ 0 →
      0 ≤ min (shareOf cap (estimate text) text.length) (text.length - 1 : Int) →
      CutsDown (cutOnce cap text (estimate text)) t → CutsDown text t

variable {estimate cap}

theorem CutsDown.le_cap {text t : String} (h : CutsDown estimate cap text t) :
    (estimate t : Int) ≤ cap := by
  induction h with
  | done hle => exact hle
  | cut _ _ _ _ ih => exact ih

theorem CutsDown.isPrefix {text t : String} (h : CutsDown estimate cap text t) :
    t.toList <+: text.toList := by
  induction h with
  | done _ => exact List.prefix_refl _
  | cut _ _ _ _ ih => exact ih.trans (toList_cutOnce_isPrefix cap _ _)

/-- A text that is below the cap is not cut. -/
theorem CutsDown.eq_of_le {text t : String} (h : CutsDown estimate cap text t)
    (hle : (estimate text : Int) ≤ cap) : t = text := by
  cases h with
  | done _ => rfl
  | cut hover => exact absurd hle (Int.not_le.2 hover)

theorem shrink_cutsDown (hcap : 0 ≤ cap) (hempty : estimate "" = 0) {steps : Nat} {text : String}
    (h : text.length < steps) :
    ∃ t, shrink (m := Id) (fun s => pure (estimate s)) cap steps text (estimate text) =
      pure (.ok t) ∧ CutsDown estimate cap text t := by
  induction steps generalizing text with
  | zero => exact absurd h (Nat.not_lt_zero _)
  | succ steps ih =>
    by_cases hle : (estimate text : Int) ≤ cap
    · exact ⟨text, by rw [shrink, if_pos hle], .done hle⟩
    · have htokens : estimate text ≠ 0 := by omega
      have hlen : 0 < text.length := by
        rw [Nat.pos_iff_ne_zero]
        intro hzero
        rw [String.length_eq_zero_iff] at hzero
        exact htokens (hzero ▸ hempty)
      have hshorter := length_cutOnce_lt cap (estimate text) hlen
      have hsteps : (cutOnce cap text (estimate text)).length < steps := by omega
      have hshare := shareOf_nonneg hcap (estimate text) text.length
      obtain ⟨t, ht, hcuts⟩ := ih hsteps
      refine ⟨t, ?_, .cut (Int.not_le.1 hle) htokens (by omega) hcuts⟩
      rw [shrink, if_neg hle, if_neg htokens, shareFault?_of_nonneg hcap]
      exact ht

theorem truncate_cutsDown (hcap : 0 ≤ cap) (hempty : estimate "" = 0) (text : String) :
    ∃ k t, Fits estimate cap text k ∧ CutsDown estimate cap (keptText text k) t ∧
      truncate (m := Id) (fun s => pure (estimate s)) cap text = pure (.ok t) := by
  have hkept : keptText text 0 = String.ofList (joinLines (importantLines text)) := by
    rw [keptText, keptLines_zero]
  obtain ⟨k, hrun, hfits⟩ := addRemarks_eq estimate cap text List.drop_zero (Nat.zero_le _)
    fun hzero => absurd hzero (Nat.lt_irrefl 0)
  have hsteps : (keptText text k).length < (keptText text k).length + 2 := by omega
  obtain ⟨t, ht, hcuts⟩ := shrink_cutsDown hcap hempty hsteps
  refine ⟨k, t, hfits, hcuts, ?_⟩
  rw [truncate, pure_bind, ← hkept, hrun, pure_bind]
  exact ht

end

/-! ### The cap for a file -/

section
variable [StandIns] {b : Budget} {text : String}

theorem estimateFault?_eq_none_iff (text : String) :
    estimateFault? text = none ↔ IsWhole text.toList := by
  rw [estimateFault?, Option.map_eq_none_iff, encodeError?_eq_none_iff]

/-- A text that is below the cap stays as it is. -/
theorem enforceCap_of_le (hfault : estimateFault? text = none)
    (hle : (b.estimate text : Int) ≤ b.perFileCap) : b.enforceCap text = .ok text := by
  rw [enforceCap, enforce, hfault]
  exact if_pos hle

/-- A text that is above the cap has a replacement that is cut down from some of its lines. -/
theorem enforceCap_of_lt (hcap : 0 ≤ b.perFileCap) (hfault : estimateFault? text = none)
    (hlt : b.perFileCap < b.estimate text) :
    ∃ k t, Fits b.estimate b.perFileCap text k ∧
      CutsDown b.estimate b.perFileCap (keptText text k) t ∧ b.enforceCap text = .ok t := by
  obtain ⟨k, t, hfits, hcuts, ht⟩ := truncate_cutsDown hcap (estimateFor_empty b.family) text
  refine ⟨k, t, hfits, hcuts, ?_⟩
  rw [enforceCap, enforce, hfault]
  exact (if_neg (Int.not_le.2 hlt)).trans ht

/-- A text with an estimate has a replacement below the cap, which takes no more than the text. -/
theorem enforceCap_le (hcap : 0 ≤ b.perFileCap) (hfault : estimateFault? text = none) :
    ∃ t, b.enforceCap text = .ok t ∧ (b.estimate t : Int) ≤ b.perFileCap ∧
      b.estimate t ≤ b.estimate text := by
  by_cases hle : (b.estimate text : Int) ≤ b.perFileCap
  · exact ⟨text, enforceCap_of_le hfault hle, hle, Nat.le_refl _⟩
  · obtain ⟨_, t, _, hcuts, ht⟩ := enforceCap_of_lt hcap hfault (Int.not_le.1 hle)
    have hbound := hcuts.le_cap
    exact ⟨t, ht, hbound, by omega⟩

end

end Budget

end PatchReview
