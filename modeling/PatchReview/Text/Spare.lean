import PatchReview.Text.Hex
import PatchReview.Text.Surrogate

/-! Spare characters: characters for which some texts have no use.

They are the first ones of the planes to which nothing is assigned that do not occur in the
texts, neither as they are nor spelled by their numbers, as formats that the texts may be
written in allow it. There are as many of them as there are halves of surrogate pairs, and no
two are the same (`Spares`). -/
namespace PatchReview.Text

/-- Characters that are spare, one for each half of surrogate pairs. -/
structure Spares where
  chars : List Char
  length_chars : chars.length = Surrogate.halfCount
  nodup_chars : chars.Nodup
  unassigned_chars : ∀ c ∈ chars, 0x40000 ≤ c.toNat

namespace Spares

/-- The first number of the planes to which nothing is assigned. -/
def start : Nat := 0x40000

/-- How many numbers of these planes texts can use such that enough are left. -/
def room : Nat := 0x9F800

/-! ### What texts use -/

/-- The number that so many hexadecimal digits write at the start of a text. -/
def digits? (width : Nat) (s : List Char) : Option Nat :=
  let digits := s.take width
  if digits.length = width && digits.all isHexDigit then some (hexRunValue digits) else none

/-- The number of the character that is spelled at the start of a text: with eight digits, or
with four for each half of a pair. -/
def spelled? : List Char → Option Nat
  | '\\' :: 'U' :: s => digits? 8 s
  | '\\' :: 'u' :: s =>
    match digits? 4 s, s.drop 4 with
    | some high, '\\' :: 'u' :: s => (digits? 4 s).bind (Surrogate.joined? high)
    | _, _ => none
  | _ => none

/-- Adds a number to some, if it is one of the planes to which nothing is assigned. -/
def noted (n : Nat) (numbers : List Nat) : List Nat :=
  if start ≤ n && !numbers.contains n then n :: numbers else numbers

/-- Adds the numbers that a text uses. -/
def usedIn (numbers : List Nat) : List Char → List Nat
  | [] => numbers
  | c :: s => usedIn (noted c.toNat ((spelled? (c :: s)).elim numbers (noted · numbers))) s

/-! ### What is left -/

/-- The numbers of the spare characters, beside those that are used. -/
def numbers (used : List Nat) : List Nat :=
  ((List.range' start (Surrogate.halfCount + used.length)).filter (!used.contains ·)).take
    Surrogate.halfCount

theorem length_le_length_filter_ne {l : List Nat} (h : l.Nodup) (a : Nat) :
    l.length ≤ (l.filter (· != a)).length + 1 := by
  induction l with
  | nil => simp
  | cons b l ih =>
    have ⟨hb, hl⟩ := List.nodup_cons.1 h
    by_cases hba : b = a
    · subst hba
      have : l.filter (· != b) = l :=
        List.filter_eq_self.2 fun x hx => by
          simpa using fun e : x = b => hb (e ▸ hx)
      simp [this]
    · have := ih hl
      simp only [List.filter_cons, bne_iff_ne, ne_eq, hba, not_false_eq_true, if_true,
        List.length_cons]
      omega

/-- Used numbers take no more than their number away. -/
theorem length_le_length_filter (used : List Nat) {l : List Nat} (h : l.Nodup) :
    l.length ≤ (l.filter (!used.contains ·)).length + used.length := by
  induction used generalizing l with
  | nil => simp [List.filter_eq_self.2]
  | cons a used ih =>
    have hl := length_le_length_filter_ne h a
    have hr := ih (h.filter (· != a))
    have : (l.filter (· != a)).filter (!used.contains ·) = l.filter (!(a :: used).contains ·) := by
      rw [List.filter_filter]
      congr 1
      funext x
      by_cases hx : x = a <;> simp [hx]
    rw [this] at hr
    simp only [List.length_cons]
    omega

theorem nodup_range (a n : Nat) : (List.range' a n).Nodup := List.nodup_range'

theorem length_numbers (used : List Nat) : (numbers used).length = Surrogate.halfCount := by
  have := length_le_length_filter used (nodup_range start (Surrogate.halfCount + used.length))
  simp only [List.length_range'] at this
  simp only [numbers, List.length_take]
  omega

theorem nodup_numbers (used : List Nat) : (numbers used).Nodup :=
  ((nodup_range _ _).filter _).sublist (List.take_sublist _ _)

theorem mem_numbers {used : List Nat} {n : Nat} (h : n ∈ numbers used) :
    start ≤ n ∧ n < start + Surrogate.halfCount + used.length ∧ n ∉ used := by
  have := List.mem_filter.1 (List.mem_of_mem_take h)
  simp only [List.mem_range'_1, Bool.not_eq_true', List.contains_eq_mem, decide_eq_false_iff_not]
    at this
  exact ⟨this.1.1, by omega, this.2⟩

theorem toNat_ofNat {n : Nat} (hl : start ≤ n) (hr : n < start + Surrogate.halfCount + room) :
    (Char.ofNat n).toNat = n := by
  have hv : n.isValidChar := by
    simp only [start, room, Surrogate.halfCount] at hl hr
    exact Or.inr ⟨by omega, by omega⟩
  rw [Char.ofNat, dif_pos hv]
  rfl

/-- Spare characters beside some texts, as far as these leave enough of them. -/
def besides (texts : List (List Char)) : Spares :=
  let used := (texts.foldl usedIn []).take room
  have toNat {n : Nat} (h : n ∈ numbers used) : start ≤ n ∧ (Char.ofNat n).toNat = n := by
    have ⟨hl, hr, _⟩ := mem_numbers h
    have := List.length_take_le room (texts.foldl usedIn [])
    exact ⟨hl, toNat_ofNat hl (Nat.lt_of_lt_of_le hr (Nat.add_le_add_left this _))⟩
  { chars := (numbers used).map Char.ofNat
    length_chars := by rw [List.length_map, length_numbers]
    nodup_chars := List.pairwise_map.2 <| (nodup_numbers used).imp_of_mem fun ha hb hne h =>
      hne (by rw [← (toNat ha).2, h, (toNat hb).2])
    unassigned_chars := fun c h => by
      obtain ⟨n, hn, rfl⟩ := List.mem_map.1 h
      rw [(toNat hn).2]
      exact (toNat hn).1 }

end Spares

end PatchReview.Text
