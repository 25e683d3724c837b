import PatchReview.Text.Order

/-! The order of texts by code points.

`Precedes` says which of two texts comes first: the one with the smaller number where they first
differ, or the one that ends where the other goes on. Sorting puts a text in front of another one
only if it precedes that one or is the same (`precedes_of_inOrder`). -/
namespace PatchReview.Text

theorem lex_of_codesInOrder {s t : List Nat} (h : codesInOrder s t = true) (hne : s ≠ t) :
    List.Lex (· < ·) s t := by
  induction s generalizing t with
  | nil =>
    cases t with
    | nil => exact absurd rfl hne
    | cons b t => exact .nil
  | cons a s ih =>
    cases t with
    | nil => exact absurd h (by simp [codesInOrder])
    | cons b t =>
      simp only [codesInOrder, Bool.or_eq_true, decide_eq_true_eq, Bool.and_eq_true,
        beq_iff_eq] at h
      obtain hlt | ⟨rfl, hrest⟩ := h
      · exact .rel hlt
      · exact .cons (ih hrest fun he => hne (he ▸ rfl))

variable [StandIns]

open Surrogate (code codes)

/-- Whether a text comes before another one, character by character and by number. -/
def Precedes (a b : String) : Prop := List.Lex (· < ·) (codes a.toList) (codes b.toList)

theorem codes_injective {s t : List Char} (h : codes s = codes t) : s = t :=
  List.map_inj_right (fun _ _ => Surrogate.code_injective) |>.1 h

theorem precedes_of_inOrder {a b : String} (h : inOrder a b = true) (hne : a ≠ b) :
    Precedes a b :=
  lex_of_codesInOrder h fun he => hne (String.toList_inj.1 (codes_injective he))

end PatchReview.Text
