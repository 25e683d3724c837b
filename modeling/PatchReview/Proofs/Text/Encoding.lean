import PatchReview.Text.Blank
import PatchReview.Text.Utf8

/-! Texts that can be written.

A text can be written as UTF-8 if it holds no half of a surrogate pair (`encodeError?_eq_none_iff`).
So can every text that takes its characters from such a text and from the assigned planes. No two
texts are written as the same bytes (`encode_injective`). -/
namespace PatchReview.Text

/-- Only characters of the assigned planes. -/
def isAssigned (s : List Char) : Bool := s.all fun c => c.toNat.blt Spares.start

theorem lt_of_isAssigned {s : List Char} (h : isAssigned s = true) {c : Char} (hc : c ∈ s) :
    c.toNat < Spares.start :=
  Nat.le_of_ble_eq_true (List.all_eq_true.1 h c hc)

/-- Different texts are written as different bytes. -/
theorem encode_injective : Function.Injective Utf8.encode := by
  intro s t h
  have hbytes : s.utf8Encode = t.utf8Encode := congrArg List.toByteArray h
  rw [← String.toByteArray_ofList, ← String.toByteArray_ofList, String.toByteArray_inj] at hbytes
  exact String.ofList_inj.1 hbytes

variable [StandIns]

/-- Without halves of surrogate pairs. -/
def IsWhole (s : List Char) : Prop := ∀ c ∈ s, Surrogate.half? c = none

/-- No character of the assigned planes stands for a half. -/
theorem half?_of_lt {c : Char} (h : c.toNat < Spares.start) : Surrogate.half? c = none := by
  rw [Surrogate.half?, if_pos h]

/-- What stands for half of a surrogate pair is no blank. -/
theorem isBlank_of_half? {c : Char} {half : Nat} (h : Surrogate.half? c = some half) :
    isBlank c = false := by
  rw [Bool.eq_false_iff]
  intro hb
  have hlt : c.toNat < Spares.start := by
    simp only [isBlank, Bool.or_eq_true, Bool.and_eq_true, decide_eq_true_eq, beq_iff_eq] at hb
    unfold Spares.start
    omega
  rw [half?_of_lt hlt] at h
  exact absurd h (Option.some_ne_none _).symm

theorem isWhole_of_isAssigned {s : List Char} (h : isAssigned s = true) : IsWhole s :=
  fun _ hc => half?_of_lt (lt_of_isAssigned h hc)

theorem IsWhole.of_mem {s t : List Char} (hs : IsWhole s)
    (h : ∀ c ∈ t, c ∈ s ∨ c.toNat < Spares.start) : IsWhole t := by
  intro c hc
  rcases h c hc with hm | hlt
  · exact hs c hm
  · exact half?_of_lt hlt

theorem IsWhole.append {s t : String} (hs : IsWhole s.toList) (ht : IsWhole t.toList) :
    IsWhole (s ++ t).toList := by
  intro c hc
  rw [String.toList_append] at hc
  rcases List.mem_append.1 hc with hc | hc
  · exact hs c hc
  · exact ht c hc

theorem IsWhole.intercalate {between : String} (hb : IsWhole between.toList) {parts : List String}
    (h : ∀ s ∈ parts, IsWhole s.toList) : IsWhole (between.intercalate parts).toList := by
  induction parts with
  | nil => exact fun c hc => absurd hc List.not_mem_nil
  | cons s rest ih =>
    have hs := h s List.mem_cons_self
    cases rest with
    | nil => rwa [String.intercalate_singleton]
    | cons t rest =>
      rw [String.intercalate_cons_cons]
      exact (hs.append hb).append (ih fun u hu => h u (List.mem_cons_of_mem _ hu))

theorem encodeErrorFrom_eq_none_iff (writable : Nat → Bool) (position : Nat) (s : List Char) :
    Utf8.encodeErrorFrom writable position s = none ↔
      ∀ c ∈ s, ∀ half, Surrogate.half? c = some half → writable half = true := by
  induction s generalizing position with
  | nil => exact ⟨fun _ _ hc => absurd hc List.not_mem_nil, fun _ => rfl⟩
  | cons c s ih =>
    rw [Utf8.encodeErrorFrom, List.forall_mem_cons, ← ih (position + 1)]
    cases h : Surrogate.half? c with
    | none =>
      show Utf8.encodeErrorFrom writable (position + 1) s = none ↔ _
      exact (and_iff_right fun half hhalf => absurd hhalf (Option.some_ne_none half).symm).symm
    | some half =>
      cases hw : writable half with
      | true =>
        simp only [Option.filter, hw, Bool.not_true, Bool.false_eq_true, if_false]
        exact (and_iff_right fun other hother => Option.some.inj hother ▸ hw).symm
      | false =>
        simp only [Option.filter, hw, Bool.not_false, if_true]
        refine iff_of_false (Option.some_ne_none _) fun hall => ?_
        exact Bool.false_ne_true (hw.symm.trans (hall.1 half rfl))

theorem encodeError?_eq_none_iff (s : List Char) : Utf8.encodeError? s = none ↔ IsWhole s := by
  rw [Utf8.encodeError?, encodeErrorFrom_eq_none_iff]
  refine forall_congr' fun c => forall_congr' fun _ => ?_
  rw [Option.eq_none_iff_forall_ne_some]
  exact forall_congr' fun half => ⟨fun h e => Bool.false_ne_true (h e), fun h e => absurd e h⟩

end PatchReview.Text
