import PatchReview.Budget.Compression
import PatchReview.Proofs.Text.Encoding
import PatchReview.Proofs.Text.Lines

/-! Compressing a text that can be written.

Compression leaves out lines and parts of lines, and puts a stub and a marker in their places. Both
can be written, so that what is made of a text that can be written can be, too
(`isWhole_compress`). -/
namespace PatchReview.Budget

open Text

theorem mem_of_behindComment? {s rest : List Char} (h : behindComment? s = some rest) :
    ∀ c ∈ rest, c ∈ s := by
  fun_induction behindComment? s with
  | case1 s =>
    obtain rfl := Option.some.inj h
    exact fun c hc => List.mem_cons_of_mem _ (List.mem_cons_of_mem _ hc)
  | case2 d s _ ih => exact fun c hc => List.mem_cons_of_mem _ (ih h c hc)
  | case3 => exact absurd h (by simp)

theorem mem_shrinkComments {s : List Char} {c : Char} (h : c ∈ shrinkComments s) :
    c ∈ s ∨ c ∈ commentStub := by
  fun_induction shrinkComments s with
  | case1 s rest hrest ih =>
    rcases List.mem_append.1 h with h | h
    · exact .inr h
    · refine (ih h).imp_left fun hm => ?_
      exact List.mem_cons_of_mem _ (List.mem_cons_of_mem _ (mem_of_behindComment? hrest c hm))
  | case2 s _ ih =>
    rcases List.mem_cons.1 h with rfl | h
    · exact .inl List.mem_cons_self
    · exact (ih h).imp_left (List.mem_cons_of_mem _)
  | case3 d s _ ih =>
    rcases List.mem_cons.1 h with rfl | h
    · exact .inl List.mem_cons_self
    · exact (ih h).imp_left (List.mem_cons_of_mem _)
  | case4 => exact absurd h List.not_mem_nil

theorem mem_shrinkLine {line : List Char} {c : Char} (h : c ∈ shrinkLine line) :
    c ∈ line ∨ c ∈ commentStub := by
  unfold shrinkLine at h
  split at h
  · exact mem_shrinkComments h
  · exact .inl h

theorem mem_compressibleLines {text : String} {line : List Char} (h : line ∈ compressibleLines text) :
    ∀ c ∈ line, c ∈ text.toList ∨ c ∈ commentStub := by
  obtain ⟨whole, hwhole, rfl⟩ := List.mem_map.1 h
  have hmem := mem_of_mem_splitLines (List.mem_filter.1 hwhole).1
  exact fun c hc => (mem_shrinkLine hc).imp_left (hmem c)

theorem mem_affordable {b : Budget} {left : Int} {lines : List (List Char)} {line : List Char}
    (h : line ∈ (b.affordable left lines).1) : line ∈ lines := by
  induction lines generalizing left with
  | nil => exact h
  | cons first rest ih =>
    rw [affordable] at h
    split at h
    · exact absurd h List.not_mem_nil
    · rcases List.mem_cons.1 h with rfl | h
      · exact List.mem_cons_self
      · exact List.mem_cons_of_mem _ (ih h)

variable [StandIns]

theorem isWhole_compress {text : String} (h : IsWhole text.toList) (b : Budget) (tokens : Int) :
    IsWhole (b.compress tokens text).toList := by
  have hstub : isAssigned commentStub = true := by decide
  have hmarker : isAssigned compressionMarker = true := by decide
  have hkept : ∀ line ∈ (b.affordable tokens (compressibleLines text)).1, ∀ c ∈ line,
      c ∈ text.toList ∨ c.toNat < Spares.start := fun line hl c hc =>
    (mem_compressibleLines (mem_affordable hl) c hc).imp_right (lt_of_isAssigned hstub)
  refine h.of_mem fun c hc => ?_
  rw [compress, String.toList_ofList] at hc
  rcases mem_joinLines hc with rfl | ⟨line, hl, hc⟩
  · exact .inr (by decide)
  · split at hl
    · rcases List.mem_append.1 hl with hl | hl
      · exact hkept line hl c hc
      · exact .inr (lt_of_isAssigned hmarker (List.mem_singleton.1 hl ▸ hc))
    · exact hkept line hl c hc

end PatchReview.Budget
