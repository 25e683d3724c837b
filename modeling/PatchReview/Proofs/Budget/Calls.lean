import Mathlib.Data.List.Dedup
import PatchReview.Budget.Trivial
import PatchReview.Proofs.Budget.Affordable
import PatchReview.Proofs.Budget.Memory

/-! What a budget answers, call after call.

A call notes the texts that it estimates behind those that were noted before (`asked_eq_append`),
so that a memory is always the memory of the texts that were estimated since the last time that
everything was forgotten (`run_answers`). As long as these are told apart, a call is answered as if
there were no memory (`answers_eq_afresh`). -/
namespace PatchReview.Budget

open Text

/-! ### Memories of some texts -/

/-- What a memory of some texts has: one entry for each of them, with its estimate. -/
structure Remembers (b : Budget) (texts : List String) (memo : Memo) : Prop where
  mem_iff : ∀ entry, entry ∈ memo ↔ ∃ text ∈ texts, entry = (digestOf text, b.estimate text)
  length_eq : memo.length = texts.dedup.length

theorem keys_memoOf_perm (b : Budget) {texts : List String} (h : ToldApart texts) :
    (b.memoOf texts).keys.Perm (texts.dedup.map digestOf) := by
  have hnodup : (texts.dedup.map digestOf).Nodup :=
    (List.nodup_dedup texts).map_on fun s hs t ht =>
      h s (List.mem_dedup.1 hs) t (List.mem_dedup.1 ht)
  refine (List.perm_ext_iff_of_nodup (Keyed.nodup_keys_ofList _) hnodup).2 fun key => ?_
  rw [Keyed.mem_keys_ofList, List.map_map]
  simp only [List.mem_map, List.mem_dedup, Function.comp_apply]

theorem remembers_memoOf (b : Budget) {texts : List String} (h : ToldApart texts) :
    Remembers b texts (b.memoOf texts) := by
  refine ⟨fun entry => ⟨fun hentry => ?_, ?_⟩, ?_⟩
  · obtain ⟨text, htext, rfl⟩ := List.mem_map.1 (Keyed.mem_ofList hentry)
    exact ⟨text, htext, rfl⟩
  · rintro ⟨text, htext, rfl⟩
    have hsub : texts ++ [text] ⊆ texts :=
      List.append_subset.2 ⟨List.Subset.refl _, by simpa using htext⟩
    have hget := b.get?_memoOf (h.of_subset hsub)
    rw [if_pos htext] at hget
    exact Keyed.mem_of_get? hget
  · have hlength := (b.keys_memoOf_perm h).length_eq
    rwa [Keyed.keys, List.length_map, List.length_map] at hlength

/-! ### What is noted -/

section
variable {α β : Type}

/-- What these steps note is put behind what was noted before, and does not depend on it. -/
def Appends (noting : StateM (List String) α) : Prop :=
  ∀ texts, noting.run texts = ((noting.run []).1, texts ++ (noting.run []).2)

theorem appends_pure (a : α) : Appends (pure a) := fun texts =>
  congrArg (Prod.mk a) (List.append_nil texts).symm

theorem Appends.bind {noting : StateM (List String) α} {f : α → StateM (List String) β}
    (h : Appends noting) (hnext : ∀ a, Appends (f a)) : Appends (noting >>= f) := by
  intro texts
  have hrun : ∀ texts, (noting >>= f).run texts =
      (f (noting.run texts).1).run (noting.run texts).2 := fun _ => rfl
  rw [hrun, hrun, h texts, hnext _ (texts ++ _), hnext _ (noting.run []).2, List.append_assoc]

theorem appends_estimateNoting (b : Budget) (text : String) : Appends (b.estimateNoting text) :=
  fun _ => rfl

theorem appends_addRemarks (b : Budget) (cap : Int) (text : String) (tokens : Nat)
    (lines : List (List Char)) : Appends (addRemarks b.estimateNoting cap text tokens lines) := by
  induction lines generalizing text tokens with
  | nil => exact appends_pure _
  | cons line rest ih =>
    rw [addRemarks]
    refine (appends_estimateNoting b _).bind fun n => ?_
    split
    · exact appends_pure _
    · exact ih _ _

theorem appends_shrink (b : Budget) (cap : Int) (steps : Nat) (text : String) (tokens : Nat) :
    Appends (shrink b.estimateNoting cap steps text tokens) := by
  induction steps generalizing text tokens with
  | zero => exact appends_pure _
  | succ steps ih =>
    rw [shrink]
    split
    · exact appends_pure _
    · split
      · exact appends_pure _
      · split
        · exact appends_pure _
        · exact (appends_estimateNoting b _).bind fun n => ih _ _

end

section
variable [StandIns]

theorem appends_enforce (b : Budget) (cap : Int) (text : String) :
    Appends (enforce b.estimateNoting cap text) := by
  rw [enforce]
  split
  · exact appends_pure _
  · refine (appends_estimateNoting b text).bind fun n => ?_
    split
    · exact appends_pure _
    · refine (appends_estimateNoting b _).bind fun tokens => ?_
      exact (appends_addRemarks b cap _ tokens _).bind fun kept => appends_shrink b cap _ _ _

theorem asked_eq_append (b : Budget) (text : String) (texts : List String) :
    b.asked text texts = texts ++ b.asked text [] :=
  congrArg Prod.snd (appends_enforce b b.perFileCap text texts)

/-! ### Calls -/

/-- What a budget can be asked for. -/
inductive Call
  | estimate (text : String)
  | shouldStop (used incoming : Int)
  | remaining (used : Int)
  | enforceCap (text : String)
  | compress (tokens : Int) (text : String)
  | withoutTrivial (diff : String)
  /-- To forget all estimates. -/
  | forget
  deriving DecidableEq, Repr

/-- What a budget answers. -/
inductive Answer
  | tokens (n : Int)
  | decision (stop : Bool)
  | text (s : String)
  | done
  deriving DecidableEq, Repr

namespace Call

/-- The answer to a call, with the estimates that are remembered. -/
def answer (b : Budget) : Call → StateM Memo (Outcome Answer)
  | estimate text => return (← b.estimateKnown text).map fun n => .tokens n
  | shouldStop used incoming => return .ok (.decision (b.shouldStop used incoming))
  | remaining used => return .ok (.tokens (b.remaining used))
  | enforceCap text => return (← b.enforceCapWithMemo text).map .text
  | compress tokens text => return (b.compression tokens text).map .text
  | withoutTrivial diff => return .ok (.text (Budget.withoutTrivial diff))
  | forget => do
    set ([] : Memo)
    return .ok .done

/-- The answer to a call as the first one. -/
def afresh (b : Budget) (call : Call) : Outcome Answer := ((call.answer b).run []).1

/-- The texts that a call estimates. -/
def texts (b : Budget) : Call → List String
  | estimate text => if (estimateFault? text).isNone then [text] else []
  | enforceCap text => b.asked text []
  | _ => []

/-- The texts that were estimated before and by a call, unless it forgets them. -/
def note (b : Budget) (before : List String) : Call → List String
  | forget => []
  | call => before ++ call.texts b

end Call

/-- The answers to some calls. -/
def answers (b : Budget) (calls : List Call) : StateM Memo (List (Outcome Answer)) :=
  calls.mapM (·.answer b)

/-- The texts that some calls estimated since everything was last forgotten. -/
def sinceForgotten (b : Budget) (calls : List Call) : List String := calls.foldl (Call.note b) []

variable {b : Budget} {call : Call} {calls : List Call} {texts : List String}

theorem Call.note_subset : call.note b texts ⊆ texts ++ call.texts b := by
  cases call <;> first | exact List.nil_subset _ | exact List.Subset.refl _

theorem Call.note_append_subset (later : List String) :
    call.note b texts ++ later ⊆ texts ++ call.texts b ++ later :=
  List.append_subset.2 ⟨List.Subset.trans note_subset (List.subset_append_left _ later),
    List.subset_append_right _ later⟩

theorem foldl_note_subset :
    calls.foldl (Call.note b) texts ⊆ texts ++ calls.flatMap (·.texts b) := by
  induction calls generalizing texts with
  | nil => exact List.subset_append_left texts []
  | cons call rest ih =>
    rw [List.foldl_cons, List.flatMap_cons, ← List.append_assoc]
    exact List.Subset.trans ih (Call.note_append_subset _)

/-- The answer to a call is the same with every memory. -/
theorem exists_run_answer (b : Budget) (call : Call) : ∃ a, ∀ texts, ToldApart (call.note b texts) →
    (call.answer b).run (b.memoOf texts) = (a, b.memoOf (call.note b texts)) := by
  have hunasked : ∀ (a : Outcome Answer) (texts : List String),
      (a, b.memoOf texts) = (a, b.memoOf (texts ++ [])) := fun a texts => by rw [List.append_nil]
  cases call with
  | estimate text =>
    cases hfault : estimateFault? text with
    | some e =>
      refine ⟨.error e, fun texts _ => ?_⟩
      have hnote : (Call.estimate text).note b texts = texts := by
        simp [Call.note, Call.texts, hfault]
      rw [hnote]
      simp only [Call.answer, estimateKnown, hfault]
      rfl
    | none =>
      refine ⟨.ok (.tokens (b.estimate text)), fun texts hapart => ?_⟩
      have hnote : (Call.estimate text).note b texts = texts ++ [text] := by
        simp [Call.note, Call.texts, hfault]
      rw [hnote] at hapart ⊢
      simp only [Call.answer, estimateKnown, hfault, StateT.run_bind, b.run_estimateWithMemo hapart]
      rfl
  | enforceCap text =>
    refine ⟨(b.enforceCap text).map .text, fun texts hapart => ?_⟩
    have hnote : (Call.enforceCap text).note b texts = b.asked text texts := by
      rw [Call.note, Call.texts, ← asked_eq_append]
      exact Call.noConfusion
    rw [hnote] at hapart ⊢
    simp only [Call.answer, StateT.run_bind, (enforces_of_eq rfl).remembering texts hapart]
    rfl
  | shouldStop used incoming => exact ⟨.ok (.decision _), fun texts _ => hunasked _ texts⟩
  | remaining used => exact ⟨.ok (.tokens _), fun texts _ => hunasked _ texts⟩
  | compress tokens text =>
    exact ⟨(b.compression tokens text).map .text, fun texts _ => hunasked _ texts⟩
  | withoutTrivial diff => exact ⟨.ok (.text _), fun texts _ => hunasked _ texts⟩
  | forget => exact ⟨.ok .done, fun _ _ => rfl⟩

/-- One call: its answer is the one that it has as the first one, and its texts are remembered. -/
theorem run_answer (hapart : ToldApart (call.note b texts)) :
    (call.answer b).run (b.memoOf texts) = (call.afresh b, b.memoOf (call.note b texts)) := by
  obtain ⟨a, ha⟩ := exists_run_answer b call
  have hfirst : call.note b [] ⊆ call.note b texts := by
    cases call <;> first | exact List.Subset.refl [] | exact List.subset_append_right texts _
  have hafresh : call.afresh b = a := congrArg Prod.fst (ha [] (hapart.of_subset hfirst))
  rw [hafresh]
  exact ha texts hapart

theorem run_answers_cons (b : Budget) (call : Call) (rest : List Call) (memo : Memo) :
    (b.answers (call :: rest)).run memo =
      (((call.answer b).run memo).1 :: ((b.answers rest).run ((call.answer b).run memo).2).1,
        ((b.answers rest).run ((call.answer b).run memo).2).2) := by
  rw [answers, List.mapM_cons]
  rfl

/-- All calls, one after the other. -/
theorem run_answers (hapart : ToldApart (texts ++ calls.flatMap (·.texts b))) :
    (b.answers calls).run (b.memoOf texts) =
      (calls.map (·.afresh b), b.memoOf (calls.foldl (Call.note b) texts)) := by
  induction calls generalizing texts with
  | nil => rfl
  | cons call rest ih =>
    rw [List.flatMap_cons, ← List.append_assoc] at hapart
    have hfirst := hapart.of_subset
      (List.Subset.trans Call.note_subset (List.subset_append_left _ (rest.flatMap (·.texts b))))
    have hrest := ih (hapart.of_subset (Call.note_append_subset _))
    rw [run_answers_cons, run_answer hfirst]
    exact congrArg (fun run => (call.afresh b :: run.1, run.2)) hrest

/-- **The memory does not show.** If the digests of all texts that are estimated are different, each
call is answered as if it were the first one. After each call the memory has one entry for each text
that was estimated since everything was last forgotten, and this is the estimate of the text. -/
theorem answers_eq_afresh (b : Budget) (calls : List Call)
    (hapart : ToldApart (calls.flatMap (·.texts b))) :
    ((b.answers calls).run []).1 = calls.map (·.afresh b) ∧
      ∀ before, before <+: calls →
        Remembers b (b.sinceForgotten before) ((b.answers before).run []).2 := by
  have hrun : ∀ before, before <+: calls → (b.answers before).run [] =
      (before.map (·.afresh b), b.memoOf (b.sinceForgotten before)) ∧
        ToldApart (b.sinceForgotten before) := by
    rintro before ⟨rest, rfl⟩
    rw [List.flatMap_append] at hapart
    have hbefore : ToldApart ([] ++ before.flatMap (·.texts b)) :=
      hapart.of_subset (List.subset_append_left _ (rest.flatMap (·.texts b)))
    exact ⟨run_answers hbefore, hbefore.of_subset foldl_note_subset⟩
  refine ⟨?_, fun before hbefore => ?_⟩
  · rw [(hrun calls (List.prefix_refl calls)).1]
  · obtain ⟨hanswers, htold⟩ := hrun before hbefore
    rw [hanswers]
    exact b.remembers_memoOf htold

end

/-- A text that is estimated again has one entry, and none once it is forgotten. -/
theorem answers_eq_afresh_again :
    letI : StandIns := ⟨.besides []⟩
    let b : Budget := ⟨8000, 2, "trim", "mock"⟩
    let calls : List Call := [.enforceCap "+x = 1\n# why", .estimate "+x = 1", .forget,
      .estimate "+x = 1"]
    ToldApart (calls.flatMap (·.texts b)) ∧
      ((b.answers calls).run []).1 = calls.map (·.afresh b) ∧
      (∀ before, before <+: calls →
        Remembers b (b.sinceForgotten before) ((b.answers before).run []).2) ∧
      (calls.inits.map fun before => (b.sinceForgotten before).dedup.length) = [0, 2, 2, 0, 1] := by
  let _ : StandIns := ⟨.besides []⟩
  intro b calls
  have hapart : ToldApart (calls.flatMap (·.texts b)) := by decide +kernel
  obtain ⟨hanswers, hmemory⟩ := answers_eq_afresh b calls hapart
  exact ⟨hapart, hanswers, hmemory, by decide +kernel⟩

end PatchReview.Budget
