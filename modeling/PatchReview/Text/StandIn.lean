import PatchReview.Text.Spare

/-! Characters that stand for halves of surrogate pairs.

JSON can write one half of a surrogate pair alone, and no character has its number. Texts keep
such halves as stand-ins: spare characters, of planes to which nothing is assigned, so that
halves pass as unknown characters do. Which characters these are holds for all that is done
with some texts (`StandIns`). Whoever compares characters by number, or writes them out, asks
for the number that is meant (`code`). -/
namespace PatchReview.Text

/-- The characters that stand for halves. -/
class StandIns where
  spares : Spares

namespace Surrogate

theorem idxOf?_getElem {l : List Char} (h : l.Nodup) {i : Nat} (hi : i < l.length) :
    l.idxOf? l[i] = some i := by
  rw [List.idxOf?_eq_some_iff]
  refine ⟨hi, rfl, fun j hj he => ?_⟩
  exact absurd he (List.pairwise_iff_getElem.1 h j i (by omega) hi hj)

variable [StandIns]

/-- The character that stands for a half. -/
def standIn (half : Nat) : Char := (StandIns.spares.chars[half - firstHalf]?).getD ' '

/-- The half that a character stands for. -/
def half? (c : Char) : Option Nat :=
  if c.toNat < Spares.start then none
  else (StandIns.spares.chars.idxOf? c).map (firstHalf + ·)

/-- The number of what a character is or stands for. -/
def code (c : Char) : Nat := (half? c).getD c.toNat

/-- The character that has a number or stands for it. -/
def ofCode (n : Nat) : Char := if isHalf n then standIn n else Char.ofNat n

/-- The numbers of what the characters of a text are or stand for. -/
def codes (s : List Char) : List Nat := s.map code

theorem half?_standIn {n : Nat} (h : isHalf n = true) : half? (standIn n) = some n := by
  have ⟨hl, hr⟩ := isHalf_iff.1 h
  have hi : n - firstHalf < StandIns.spares.chars.length := by
    rw [StandIns.spares.length_chars]
    omega
  have hs : standIn n = StandIns.spares.chars[n - firstHalf] := by
    simp [standIn, List.getElem?_eq_getElem hi]
  have hc := StandIns.spares.unassigned_chars _ (List.getElem_mem hi)
  rw [half?, hs, if_neg (show ¬_ < Spares.start from Nat.not_lt.2 hc),
    idxOf?_getElem StandIns.spares.nodup_chars hi]
  exact congrArg some (Nat.add_sub_cancel' hl)

theorem exists_of_half? {c : Char} {n : Nat} (h : half? c = some n) :
    isHalf n = true ∧ c = standIn n := by
  rw [half?] at h
  split at h
  · exact absurd h (Option.some_ne_none n).symm
  · obtain ⟨i, hi, rfl⟩ := Option.map_eq_some_iff.1 h
    obtain ⟨hlt, hget, -⟩ := List.idxOf?_eq_some_iff.1 hi
    refine ⟨isHalf_iff.2 ⟨Nat.le_add_right _ i, ?_⟩, ?_⟩
    · have := StandIns.spares.length_chars
      omega
    · rw [standIn, Nat.add_sub_cancel_left, List.getElem?_eq_getElem hlt, hget]
      rfl

/-- Different characters are or stand for different numbers. -/
theorem code_injective {c d : Char} (h : code c = code d) : c = d := by
  unfold code at h
  cases hc : half? c with
  | none =>
    cases hd : half? d with
    | none =>
      rw [hc, hd] at h
      exact Char.toNat_inj.1 h
    | some n =>
      rw [hc, hd] at h
      have hhalf := (exists_of_half? hd).1
      rw [← show c.toNat = n from h, isHalf_toNat] at hhalf
      exact absurd hhalf Bool.false_ne_true
  | some n =>
    have ⟨hhalf, hstands⟩ := exists_of_half? hc
    cases hd : half? d with
    | none =>
      rw [hc, hd] at h
      rw [show n = d.toNat from h, isHalf_toNat] at hhalf
      exact absurd hhalf Bool.false_ne_true
    | some m =>
      rw [hc, hd] at h
      rw [hstands, (exists_of_half? hd).2, show n = m from h]

end Surrogate

end PatchReview.Text
