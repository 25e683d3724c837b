/-! What patterns for paths and names have in common.

For paths a backslash separates directories like a slash does, on both sides of a match, and a
pattern has to take the whole path, save for one newline at its end. `someEnd` is how a star
goes on, and a set in brackets is cut off at the bracket that closes it. -/
namespace PatchReview.Glob

/-- A text with slashes for backslashes. -/
def unifySeparators (s : List Char) : List Char := s.map fun c => if c == '\\' then '/' else c

/-- Whether nothing is left of a path but possibly one newline. -/
def atPathEnd (s : List Char) : Bool := s.isEmpty || s == ['\n']

/-- Whether `p` holds here or behind some characters that all pass `through`. -/
def someEnd (through : Char → Bool) (p : List Char → Bool) : List Char → Bool
  | [] => p []
  | c :: s => p (c :: s) || (through c && someEnd through p s)

theorem someEnd_iff (through : Char → Bool) (p : List Char → Bool) (s : List Char) :
    someEnd through p s = true ↔
      ∃ a b, s = a ++ b ∧ a.all through = true ∧ p b = true := by
  induction s with
  | nil =>
    constructor
    · exact fun h => ⟨[], [], rfl, rfl, h⟩
    · rintro ⟨a, b, hs, _, hb⟩
      obtain rfl := (List.append_eq_nil_iff.1 hs.symm).2
      exact hb
  | cons c s ih =>
    simp only [someEnd, Bool.or_eq_true, Bool.and_eq_true, ih]
    constructor
    · rintro (h | ⟨hc, a, b, rfl, ha, hb⟩)
      · exact ⟨[], c :: s, rfl, rfl, h⟩
      · exact ⟨c :: a, b, rfl, by simp only [List.all_cons, hc, ha, Bool.and_self], hb⟩
    · rintro ⟨a, b, hs, ha, hb⟩
      cases a with
      | nil => exact .inl (by simpa using hs ▸ hb)
      | cons d a =>
        simp only [List.cons_append, List.cons.injEq] at hs
        simp only [List.all_cons, Bool.and_eq_true] at ha
        exact .inr ⟨hs.1 ▸ ha.1, a, b, hs.2, ha.2, hb⟩

/-! ### Sets in brackets -/

/-- The text up to the next closing bracket, and the text behind it. -/
def cutAtBracket : List Char → Option (List Char × List Char)
  | [] => none
  | ']' :: s => some ([], s)
  | c :: s => (cutAtBracket s).map fun (body, rest) => (c :: body, rest)

/-- A closing bracket right at the start of a set belongs to it. -/
def cutBody (s : List Char) : Option (List Char × List Char) :=
  match s with
  | ']' :: s => (cutAtBracket s).map fun (body, rest) => (']' :: body, rest)
  | s => cutAtBracket s

theorem length_of_cutAtBracket {s b rest : List Char} (h : cutAtBracket s = some (b, rest)) :
    rest.length < s.length := by
  induction s generalizing b with
  | nil => simp [cutAtBracket] at h
  | cons c s ih =>
    by_cases hc : c = ']'
    · subst hc
      simp only [cutAtBracket, Option.some.injEq, Prod.mk.injEq] at h
      simp [h.2]
    · rw [cutAtBracket] at h
      · obtain ⟨⟨x, r⟩, hbr, he⟩ := Option.map_eq_some_iff.1 h
        simp only [Prod.mk.injEq] at he
        have := ih (b := x) (he.2 ▸ hbr)
        simp only [List.length_cons]
        omega
      · exact hc

theorem length_of_cutBody {s b rest : List Char} (h : cutBody s = some (b, rest)) :
    rest.length < s.length := by
  unfold cutBody at h
  split at h
  · obtain ⟨⟨x, r⟩, hbr, he⟩ := Option.map_eq_some_iff.1 h
    simp only [Prod.mk.injEq] at he
    have := length_of_cutAtBracket (b := x) (he.2 ▸ hbr)
    simp only [List.length_cons]
    omega
  · exact length_of_cutAtBracket h

end PatchReview.Glob
