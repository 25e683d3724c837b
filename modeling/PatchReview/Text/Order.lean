import PatchReview.Text.StandIn

/-! The order of texts: character by character, by number. It is total and transitive, so texts
can be sorted by it (`inOrder_total`, `inOrder_trans`). -/
namespace PatchReview.Text

/-- Whether some numbers come no later than others: the first ones that differ decide, and a
beginning comes before the whole. -/
def codesInOrder : List Nat → List Nat → Bool
  | [], _ => true
  | _ :: _, [] => false
  | a :: s, b :: t => a < b || (a == b && codesInOrder s t)

theorem codesInOrder_total (s t : List Nat) : (codesInOrder s t || codesInOrder t s) = true := by
  induction s generalizing t with
  | nil => rfl
  | cons a s ih =>
    cases t with
    | nil => rfl
    | cons b t =>
      have := ih t
      rcases Nat.lt_trichotomy a b with h | rfl | h <;> simp_all [codesInOrder]

theorem codesInOrder_trans {s t u : List Nat} (hst : codesInOrder s t = true)
    (htu : codesInOrder t u = true) : codesInOrder s u = true := by
  induction s generalizing t u with
  | nil => rfl
  | cons a s ih =>
    match t, u with
    | [], _ => simp [codesInOrder] at hst
    | _ :: _, [] => simp [codesInOrder] at htu
    | b :: t, c :: u =>
      simp only [codesInOrder, Bool.or_eq_true, decide_eq_true_eq, Bool.and_eq_true, beq_iff_eq]
        at *
      rcases hst with h | ⟨rfl, h⟩ <;> rcases htu with k | ⟨rfl, k⟩
      · exact Or.inl (Nat.lt_trans h k)
      · exact Or.inl h
      · exact Or.inl k
      · exact Or.inr ⟨rfl, ih h k⟩

variable [StandIns]

/-- Whether a text comes no later than another. -/
def inOrder (a b : String) : Bool :=
  codesInOrder (Surrogate.codes a.toList) (Surrogate.codes b.toList)

theorem inOrder_total (a b : String) : (inOrder a b || inOrder b a) = true :=
  codesInOrder_total _ _

theorem inOrder_trans {a b c : String} (hab : inOrder a b = true) (hbc : inOrder b c = true) :
    inOrder a c = true :=
  codesInOrder_trans hab hbc

end PatchReview.Text
