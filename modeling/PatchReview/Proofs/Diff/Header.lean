import PatchReview.Diff.Header
import PatchReview.Proofs.Text.Scan
import PatchReview.Proofs.Text.Trimming

/-! The forms of target headers and hunk headers.

`targetPath?` and `hunkStart?` find exactly the lines of two forms, `IsTargetHeader` and
`IsHunkHeader`. A hunk header ends in a character that is not blank, so blanks at the end of a
line neither make one nor hide one (`hunkStart?_trimEnd`); a target header may lose its path to
trimming, but no other line becomes one (`targetPath?_trimEnd_eq_none`). -/
namespace PatchReview.Diff

open Text

/-! ### Target headers -/

/-- `+++`, blanks, `b/` and a path. -/
inductive IsTargetHeader : List Char → List Char → Prop where
  | mk {w path : List Char} : IsBlanks w → path ≠ [] →
      IsTargetHeader ('+' :: '+' :: '+' :: (w ++ 'b' :: '/' :: path)) path

theorem targetPath?_eq_some_iff (line path : List Char) :
    targetPath? line = some path ↔ IsTargetHeader line path := by
  constructor
  · intro h
    simp only [targetPath?, Option.bind_eq_bind, Option.bind_eq_some_iff] at h
    obtain ⟨s, hs, t, ht, u, hu, hp⟩ := h
    obtain rfl := (after?_eq_some_iff _ _ _).1 hs
    obtain ⟨w, hw, rfl⟩ := exists_of_afterBlanks? ht
    obtain rfl := (after?_eq_some_iff _ _ _).1 hu
    cases u with
    | nil => exact absurd hp (by simp)
    | cons c u =>
      obtain rfl := Option.some.inj hp
      exact .mk hw (List.cons_ne_nil c u)
  · rintro ⟨hw, hp⟩
    rename_i w
    have hb : isBlank 'b' = false := by decide
    simp only [targetPath?, Option.bind_eq_bind, after?_cons_self, after?_nil, Option.bind_some,
      afterBlanks?_append hw hb]

/-- What follows a target header belongs to the path. -/
theorem IsTargetHeader.append {line path : List Char} (h : IsTargetHeader line path)
    (s : List Char) : IsTargetHeader (line ++ s) (path ++ s) := by
  obtain ⟨hw, hp⟩ := h
  simpa using IsTargetHeader.mk hw (fun e => hp (List.append_eq_nil_iff.1 e).1)

theorem targetPath?_cons_of_ne {c : Char} (h : c ≠ '+') (s : List Char) :
    targetPath? (c :: s) = none := by
  simp only [targetPath?, after?_cons_of_ne (Ne.symm h), Option.bind_eq_bind, Option.bind_none]

/-- Trimming makes no target header. -/
theorem targetPath?_trimEnd_eq_none {line : List Char} (h : targetPath? line = none) :
    targetPath? (trimEnd line) = none := by
  cases ht : targetPath? (trimEnd line) with
  | none => rfl
  | some path =>
    obtain ⟨w, hline, _⟩ := exists_append_blank line
    have hform := (targetPath?_eq_some_iff _ _).1 ht
    have : IsTargetHeader (trimEnd line ++ w) (path ++ w) := hform.append w
    rw [← hline, ← targetPath?_eq_some_iff, h] at this
    exact absurd this (by simp)

/-! ### Hunk headers -/

/-- The count behind a start, which may be left out. -/
inductive IsCount : List Char → Prop where
  | left : IsCount []
  | given {digits : List Char} : IsNumber digits → IsCount (',' :: digits)

/-- `@@`, the range on the source side, the range on the target side, which begins with `start`,
`@@`, and anything behind it. -/
inductive IsHunkHeader : List Char → List Char → Prop where
  | mk {w₁ source c₁ w₂ start c₂ w₃ rest : List Char} : IsBlanks w₁ → IsNumber source → IsCount c₁ →
      IsBlanks w₂ → IsNumber start → IsCount c₂ → IsBlanks w₃ →
      IsHunkHeader ('@' :: '@' :: (w₁ ++ '-' :: (source ++ (c₁ ++ (w₂ ++ '+' :: (start ++ (c₂ ++
        (w₃ ++ '@' :: '@' :: rest)))))))) start

theorem not_startsWithDigit_of_isBlanks {w : List Char} (h : IsBlanks w) (s : List Char) :
    ¬StartsWithDigit (w ++ s) := by
  obtain ⟨c, t, rfl, hc, _⟩ := h.exists_cons
  rintro ⟨d, u, he, hd⟩
  rw [List.cons_append, List.cons.injEq] at he
  rw [← he.1, isDigit_of_isBlank hc] at hd
  exact absurd hd (by decide)

theorem not_startsWithDigit_of_isCount {c w : List Char} (hc : IsCount c) (hw : IsBlanks w)
    (s : List Char) : ¬StartsWithDigit (c ++ (w ++ s)) := by
  cases hc with
  | left => exact not_startsWithDigit_of_isBlanks hw s
  | given _ =>
    rintro ⟨d, u, he, hd⟩
    rw [List.cons_append, List.cons.injEq] at he
    rw [← he.1] at hd
    exact absurd hd (by decide)

theorem skipCount_append {c w : List Char} (hc : IsCount c) (hw : IsBlanks w) (s : List Char) :
    skipCount (c ++ (w ++ s)) = w ++ s := by
  cases hc with
  | left =>
    obtain ⟨d, t, rfl, hd, _⟩ := hw.exists_cons
    rw [List.nil_append, List.cons_append, skipCount]
    intro rest he
    rw [(List.cons.inj he).1] at hd
    exact absurd hd (by decide)
  | given hn =>
    rw [List.cons_append, skipCount, takeNumber?_append hn (not_startsWithDigit_of_isBlanks hw s)]

/-- What is skipped is a count. -/
theorem exists_skipCount (s : List Char) : ∃ c, IsCount c ∧ s = c ++ skipCount s := by
  unfold skipCount
  split
  · split
    · rename_i rest _ digits more h
      obtain ⟨hn, rfl, _⟩ := exists_of_takeNumber? h
      exact ⟨',' :: digits, .given hn, by rw [List.cons_append]⟩
    · exact ⟨[], .left, rfl⟩
  · exact ⟨[], .left, rfl⟩

theorem hunkStart?_eq_some_iff (line start : List Char) :
    hunkStart? line = some start ↔ IsHunkHeader line start := by
  constructor
  · intro h
    simp only [hunkStart?, Option.bind_eq_bind, Option.bind_eq_some_iff] at h
    obtain ⟨s, hs, s₁, h₁, s₂, h₂, ⟨source, s₃⟩, h₃, s₄, h₄, s₅, h₅, ⟨digits, s₆⟩, h₆, s₇, h₇, s₈,
      h₈, hstart⟩ := h
    obtain rfl := (after?_eq_some_iff _ _ _).1 hs
    obtain ⟨w₁, hw₁, rfl⟩ := exists_of_afterBlanks? h₁
    obtain rfl := (after?_eq_some_iff _ _ _).1 h₂
    obtain ⟨hsource, rfl, _⟩ := exists_of_takeNumber? h₃
    obtain ⟨c₁, hc₁, hs₃⟩ := exists_skipCount s₃
    obtain ⟨w₂, hw₂, hs₄⟩ := exists_of_afterBlanks? h₄
    obtain rfl := (after?_eq_some_iff _ _ _).1 h₅
    obtain ⟨hdigits, rfl, _⟩ := exists_of_takeNumber? h₆
    obtain ⟨c₂, hc₂, hs₆⟩ := exists_skipCount s₆
    obtain ⟨w₃, hw₃, hs₇⟩ := exists_of_afterBlanks? h₇
    obtain rfl := (after?_eq_some_iff _ _ _).1 h₈
    obtain rfl := Option.some.inj hstart
    rw [hs₃, hs₄, hs₆, hs₇]
    exact .mk hw₁ hsource hc₁ hw₂ hdigits hc₂ hw₃
  · rintro ⟨hw₁, hsource, hc₁, hw₂, hstart, hc₂, hw₃⟩
    rename_i w₁ source c₁ w₂ c₂ w₃ rest
    have hminus : isBlank '-' = false := by decide
    have hplus : isBlank '+' = false := by decide
    have hat : isBlank '@' = false := by decide
    simp only [hunkStart?, Option.bind_eq_bind, after?_cons_self, after?_nil, Option.bind_some,
      afterBlanks?_append hw₁ hminus,
      takeNumber?_append hsource (not_startsWithDigit_of_isCount hc₁ hw₂ _),
      skipCount_append hc₁ hw₂, afterBlanks?_append hw₂ hplus,
      takeNumber?_append hstart (not_startsWithDigit_of_isCount hc₂ hw₃ _),
      skipCount_append hc₂ hw₃, afterBlanks?_append hw₃ hat]
    rfl

theorem hunkStart?_cons_of_ne {c : Char} (h : c ≠ '@') (s : List Char) :
    hunkStart? (c :: s) = none := by
  simp only [hunkStart?, after?_cons_of_ne (Ne.symm h), Option.bind_eq_bind, Option.bind_none]

/-- A hunk header ends before the text behind its second mark. -/
theorem IsHunkHeader.exists_form {line start : List Char} (h : IsHunkHeader line start) :
    ∃ u rest, line = u ++ '@' :: rest ∧ ∀ more, IsHunkHeader (u ++ '@' :: more) start := by
  obtain ⟨hw₁, hsource, hc₁, hw₂, hstart, hc₂, hw₃⟩ := h
  rename_i w₁ source c₁ w₂ c₂ w₃ rest
  refine ⟨'@' :: '@' :: (w₁ ++ '-' :: (source ++ (c₁ ++ (w₂ ++ '+' :: (start ++ (c₂ ++
    (w₃ ++ ['@']))))))), rest, by simp, fun more => ?_⟩
  have hmk : IsHunkHeader ('@' :: '@' :: (w₁ ++ '-' :: (source ++ (c₁ ++ (w₂ ++ '+' ::
      (start ++ (c₂ ++ (w₃ ++ '@' :: '@' :: more)))))))) start :=
    .mk hw₁ hsource hc₁ hw₂ hstart hc₂ hw₃
  simpa using hmk

theorem hunkStart?_trimEnd (line : List Char) : hunkStart? (trimEnd line) = hunkStart? line := by
  have hat : isBlank '@' = false := by decide
  refine Option.ext fun start => ?_
  rw [hunkStart?_eq_some_iff, hunkStart?_eq_some_iff]
  constructor
  · intro h
    obtain ⟨u, rest, hu, hform⟩ := h.exists_form
    obtain ⟨t, ht⟩ := (exists_trimEnd_eq_append_cons line '@' u hat).1 ⟨rest, hu⟩
    rw [ht]
    exact hform t
  · intro h
    obtain ⟨u, rest, hu, hform⟩ := h.exists_form
    obtain ⟨t, ht⟩ := (exists_trimEnd_eq_append_cons line '@' u hat).2 ⟨rest, hu⟩
    rw [ht]
    exact hform t

end PatchReview.Diff
