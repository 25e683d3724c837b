import Mathlib.Data.List.SplitBy
import PatchReview.Proofs.Chunk.Run

/-! Chunks grouped by context.

Groups are cut where the context changes and nowhere else (`Grouped`), and that leaves one way to
cut (`Grouped.eq_splitBy`), which is the one that is taken. So grouping is only about where the
groups end: the chunks of a diff are the same with it and without it
(`grouping_keeps_chunks`). -/
namespace PatchReview.Chunk

/-- Chunks cut into groups of one context each, where neighbouring groups have different ones. -/
structure Grouped (chunks : List Chunk) (groups : List (List Chunk)) : Prop where
  flatten_eq : groups.flatten = chunks
  ne_nil : ∀ group ∈ groups, group ≠ []
  context_eq : ∀ group ∈ groups, ∀ c ∈ group, ∀ d ∈ group, c.context = d.context
  context_ne : groups.IsChain fun group next => ∀ c ∈ group, ∀ d ∈ next, c.context ≠ d.context

/-! ### Cutting -/

/-- A chunk of the context of the first group joins it. -/
theorem Grouped.join {c d : Chunk} {group rest : List Chunk} {groups : List (List Chunk)}
    (h : Grouped rest ((d :: group) :: groups)) (hc : c.context = d.context) :
    Grouped (c :: rest) ((c :: d :: group) :: groups) := by
  have hfirst : ∀ e ∈ c :: d :: group, e.context = d.context := by
    intro e he
    rcases List.mem_cons.1 he with rfl | he
    · exact hc
    · exact h.context_eq _ List.mem_cons_self e he d List.mem_cons_self
  have hchain := List.isChain_cons.1 h.context_ne
  refine ⟨?_, ?_, ?_, ?_⟩
  · rw [List.flatten_cons, List.cons_append, ← List.flatten_cons, h.flatten_eq]
  · intro other ho
    rcases List.mem_cons.1 ho with rfl | ho
    · exact List.cons_ne_nil _ _
    · exact h.ne_nil other (List.mem_cons_of_mem _ ho)
  · intro other ho
    rcases List.mem_cons.1 ho with rfl | ho
    · exact fun e he f hf => (hfirst e he).trans (hfirst f hf).symm
    · exact h.context_eq other (List.mem_cons_of_mem _ ho)
  · refine List.isChain_cons.2 ⟨fun next hnext e he f hf => ?_, hchain.2⟩
    rw [hfirst e he]
    exact hchain.1 next hnext d List.mem_cons_self f hf

/-- A chunk of another context than the first group starts a group of its own. -/
theorem Grouped.start {c : Chunk} {rest : List Chunk} {groups : List (List Chunk)}
    (h : Grouped rest groups) (hc : ∀ group ∈ groups.head?, ∀ d ∈ group, c.context ≠ d.context) :
    Grouped (c :: rest) ([c] :: groups) := by
  refine ⟨?_, ?_, ?_, ?_⟩
  · rw [List.flatten_cons, h.flatten_eq, List.singleton_append]
  · intro group hg
    rcases List.mem_cons.1 hg with rfl | hg
    · exact List.cons_ne_nil _ _
    · exact h.ne_nil group hg
  · intro group hg
    rcases List.mem_cons.1 hg with rfl | hg
    · intro d hd e he
      rw [List.mem_singleton.1 hd, List.mem_singleton.1 he]
    · exact h.context_eq group hg
  · refine List.isChain_cons.2 ⟨fun next hnext d hd e he => ?_, h.context_ne⟩
    rw [List.mem_singleton.1 hd]
    exact hc next hnext e he

theorem grouped_contextRuns (chunks : List Chunk) : Grouped chunks (contextRuns chunks) := by
  induction chunks with
  | nil => exact ⟨rfl, by simp [contextRuns], by simp [contextRuns], List.isChain_nil⟩
  | cons c rest ih =>
    rw [contextRuns]
    split
    · rename_i d group groups hruns
      rw [hruns] at ih
      split
      · rename_i hc
        exact ih.join hc
      · rename_i hc
        refine ih.start fun first hfirst e he => ?_
        obtain rfl := Option.some.inj hfirst
        rw [ih.context_eq _ List.mem_cons_self e he d List.mem_cons_self]
        exact hc
    · rename_i hruns
      refine ih.start fun first hfirst => ?_
      cases hgroups : contextRuns rest with
      | nil => exact absurd (hgroups ▸ hfirst) (Option.not_mem_none _)
      | cons group groups =>
        cases group with
        | nil => exact absurd rfl (ih.ne_nil [] (hgroups ▸ List.mem_cons_self))
        | cons d group => exact absurd hgroups (hruns d group groups)

/-- There is one way to cut where the context changes and nowhere else. -/
theorem Grouped.eq_splitBy {chunks : List Chunk} {groups : List (List Chunk)}
    (h : Grouped chunks groups) :
    chunks.splitBy (fun c d => decide (c.context = d.context)) = groups := by
  refine List.splitBy_eq_iff.2 ⟨h.flatten_eq.symm, fun hnil => h.ne_nil [] hnil rfl, ?_, ?_⟩
  · intro group hg
    refine (List.pairwise_of_forall_mem_list fun c hc d hd => ?_).isChain
    exact decide_eq_true (h.context_eq group hg c hc d hd)
  · refine h.context_ne.imp_of_mem_imp fun group next hg hn hne => ?_
    refine ⟨h.ne_nil group hg, h.ne_nil next hn, decide_eq_false ?_⟩
    exact hne _ (List.getLast_mem _) _ (List.head_mem _)

theorem grouped_iff (chunks : List Chunk) (groups : List (List Chunk)) :
    Grouped chunks groups ↔ groups = contextRuns chunks := by
  constructor
  · exact fun h => h.eq_splitBy.symm.trans (grouped_contextRuns chunks).eq_splitBy
  · rintro rfl
    exact grouped_contextRuns chunks

/-! ### Chunks of a diff -/

variable [Text.StandIns]

/-- The field that asks for groups is none of a budget. -/
theorem ofEntries_put_byContext (raw : Entries) (v : Value) :
    Budget.ofEntries (raw.put "enable_semantic_chunking" v) = Budget.ofEntries raw := by
  have hother (name : String) (hne : name ≠ "enable_semantic_chunking") :
      (raw.put "enable_semantic_chunking" v).get? name = raw.get? name :=
    Keyed.get?_alter_of_ne hne _ raw
  simp only [Budget.ofEntries, hother "diff_token_limit" (by decide),
    hother "per_file_token_cap" (by decide), hother "overflow_strategy" (by decide),
    hother "provider" (by decide)]

/-- The groups of some chunks are the one way to cut them where the context changes and nowhere
else. So asking for groups leaves the budget, the chunks of every diff and what is written down
about them as they are. -/
theorem grouping_keeps_chunks :
    (∀ chunks groups, Grouped chunks groups ↔ groups = contextRuns chunks) ∧
      (∀ (raw : Entries) (v : Value),
        Budget.ofEntries (raw.put "enable_semantic_chunking" v) = Budget.ofEntries raw) ∧
      ∀ (limit : Option Nat) (b : Budget) (excludes : List String) (diff : String),
        ofDiffWithin limit b true excludes diff = ofDiffWithin limit b false excludes diff := by
  refine ⟨grouped_iff, ofEntries_put_byContext, fun limit b excludes diff => ?_⟩
  simp only [ofDiffWithin, flatten_contextRuns, ite_self]

end PatchReview.Chunk
