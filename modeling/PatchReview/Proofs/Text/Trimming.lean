import PatchReview.Text.Blank

/-! What trimming the end of a text leaves.

A text is what trimming leaves and some blanks (`exists_append_blank`). A character that is not
blank stops the trimming (`trimEnd_append_cons`), so whoever reads a text up to such a character
reads the same before and after. -/
namespace PatchReview.Text

theorem trimEnd_eq_nil {s : List Char} (h : allBlank s = true) : trimEnd s = [] :=
  (trimEnd_eq_nil_iff s).2 h

/-- Blanks at the end make no difference. -/
theorem trimEnd_append_of_allBlank (s : List Char) {w : List Char} (h : allBlank w = true) :
    trimEnd (s ++ w) = trimEnd s := by
  induction s with
  | nil => exact trimEnd_eq_nil h
  | cons c s ih => rw [List.cons_append, trimEnd_cons, trimEnd_cons, ih]

theorem trimEnd_cons_of_ne_nil (c : Char) {s : List Char} (h : trimEnd s ≠ []) :
    trimEnd (c :: s) = c :: trimEnd s :=
  (trimEnd_cons c s).trans (if_neg h)

theorem trimEnd_cons_of_not_blank {c : Char} (s : List Char) (hc : isBlank c = false) :
    trimEnd (c :: s) = c :: trimEnd s := by
  by_cases h : trimEnd s = []
  · simp [trimEnd_cons, h, hc]
  · exact trimEnd_cons_of_ne_nil c h

/-- Trimming takes blanks and nothing else. -/
theorem exists_append_blank (s : List Char) : ∃ w, s = trimEnd s ++ w ∧ allBlank w = true := by
  induction s with
  | nil => exact ⟨[], rfl, rfl⟩
  | cons c s ih =>
    obtain ⟨w, hs, hw⟩ := ih
    by_cases ht : trimEnd s = []
    · have hb : allBlank s = true := (trimEnd_eq_nil_iff s).1 ht
      cases hc : isBlank c with
      | true =>
        have hall : allBlank (c :: s) = true := by
          simp only [allBlank, List.all_cons, hc, Bool.true_and]
          exact hb
        rw [(trimEnd_eq_nil_iff (c :: s)).2 hall]
        exact ⟨c :: s, rfl, hall⟩
      | false =>
        rw [trimEnd_cons_of_not_blank s hc, ht]
        exact ⟨s, rfl, hb⟩
    · refine ⟨w, ?_, hw⟩
      rw [trimEnd_cons_of_ne_nil c ht, List.cons_append, ← hs]

theorem trimEnd_trimEnd (s : List Char) : trimEnd (trimEnd s) = trimEnd s := by
  obtain ⟨w, hs, hw⟩ := exists_append_blank s
  calc trimEnd (trimEnd s)
      = trimEnd (trimEnd s ++ w) := (trimEnd_append_of_allBlank _ hw).symm
    _ = trimEnd s := by rw [← hs]

/-- What is left of the text behind a character that is not blank is never empty. -/
theorem trimEnd_append_of_ne_nil (s : List Char) {t : List Char} (h : trimEnd t ≠ []) :
    trimEnd (s ++ t) = s ++ trimEnd t := by
  induction s with
  | nil => rfl
  | cons c s ih =>
    have hne : trimEnd (s ++ t) ≠ [] := by
      rw [ih]
      exact fun e => h (List.append_eq_nil_iff.1 e).2
    rw [List.cons_append, trimEnd_cons_of_ne_nil c hne, ih, List.cons_append]

/-- A character that is not blank stays, with all that stands before it. -/
theorem trimEnd_append_cons (s : List Char) {c : Char} (t : List Char) (hc : isBlank c = false) :
    trimEnd (s ++ c :: t) = s ++ c :: trimEnd t := by
  have h := trimEnd_cons_of_not_blank t hc
  rw [trimEnd_append_of_ne_nil s (by rw [h]; exact List.cons_ne_nil _ _), h]

theorem mem_of_mem_trimEnd {s : List Char} {c : Char} (h : c ∈ trimEnd s) : c ∈ s := by
  obtain ⟨w, hs, _⟩ := exists_append_blank s
  rw [hs]
  exact List.mem_append_left w h

/-- A text starts alike before and after trimming, up to a character that is not blank. -/
theorem exists_trimEnd_eq_append_cons (s : List Char) (c : Char) (u : List Char)
    (hc : isBlank c = false) :
    (∃ t, trimEnd s = u ++ c :: t) ↔ ∃ t, s = u ++ c :: t := by
  constructor
  · rintro ⟨t, ht⟩
    obtain ⟨w, hs, _⟩ := exists_append_blank s
    exact ⟨t ++ w, by rw [hs, ht, List.append_assoc, List.cons_append]⟩
  · rintro ⟨t, rfl⟩
    exact ⟨trimEnd t, trimEnd_append_cons u t hc⟩

end PatchReview.Text
