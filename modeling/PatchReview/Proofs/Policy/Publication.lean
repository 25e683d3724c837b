import Mathlib.Data.List.Forall2
import Mathlib.Data.List.Induction
import PatchReview.Policy.Selection

/-! Findings as they are published, one after the other.

A finding is published right behind those that are, if it is severe enough, there is no fingerprint
like its own among theirs and they are fewer than there may be (`publish_concat`). So findings
behind others only add to what is published (`exists_picked_append`), and what is published with
less room is the beginning of what is published with more (`publish_eq_take`). -/
namespace PatchReview.PolicySettings

open Text

theorem findSome?_congr {α β : Type} {f g : α → Option β} {l : List α} (h : ∀ a ∈ l, f a = g a) :
    l.findSome? f = l.findSome? g := by
  induction l with
  | nil => rfl
  | cons a rest ih =>
    rw [List.findSome?_cons, List.findSome?_cons, h a List.mem_cons_self,
      ih fun b hb => h b (List.mem_cons_of_mem _ hb)]

variable [StandIns] {ν : Type} [LineMark ν]

/-- What a finding is published as: it has its fingerprint, and otherwise only its content may have
changed. -/
structure PublishedAs (f g : FindingOf ν) : Prop where
  rest_eq : { g with content := f.content, fingerprint := f.fingerprint } = f
  fingerprint_eq : ∃ digest, f.fingerprinted = .ok digest ∧ g.fingerprint = some digest

theorem fingerprinted_eq_ok {f : FindingOf ν} (h : f.digestFault? = none) :
    f.fingerprinted = .ok f.digest := by
  rw [FindingOf.fingerprinted, h]

theorem eq_digest_of_fingerprinted {f : FindingOf ν} {digest : String}
    (h : f.fingerprinted = .ok digest) : digest = f.digest := by
  unfold FindingOf.fingerprinted at h
  split at h
  · exact absurd h (by simp)
  · exact (Except.ok.inj h).symm

variable (p : PolicySettings)

theorem fingerprint_published (f : FindingOf ν) :
    (p.published f).fingerprint = some f.digest := by
  rw [published]

theorem publishedAs_published {f : FindingOf ν} (h : f.digestFault? = none) :
    PublishedAs f (p.published f) :=
  ⟨rfl, f.digest, fingerprinted_eq_ok h, rfl⟩

theorem PublishedAs.file_eq {f g : FindingOf ν} (h : PublishedAs f g) : g.file = f.file := by
  rw [← h.rest_eq]

theorem PublishedAs.severity_eq {f g : FindingOf ν} (h : PublishedAs f g) :
    g.severity = f.severity := by
  rw [← h.rest_eq]

/-! ### The next finding -/

theorem publish_cons_of_skip {f : FindingOf ν} {seen : List String}
    (h : (!p.isSevere f || seen.contains f.digest) = true) (room : Nat)
    (rest : List (FindingOf ν)) :
    p.publish room seen (f :: rest) = p.publish room seen rest := by
  cases room with
  | zero => rw [publish, publish]
  | succ room => rw [publish, if_pos h]

theorem publish_cons_of_keep {f : FindingOf ν} {seen : List String}
    (h : ¬(!p.isSevere f || seen.contains f.digest) = true) (room : Nat)
    (rest : List (FindingOf ν)) :
    p.publish (room + 1) seen (f :: rest) =
      p.published f :: p.publish room (f.digest :: seen) rest := by
  rw [publish, if_neg h]

theorem publish_zero (seen : List String) (findings : List (FindingOf ν)) :
    p.publish 0 seen findings = [] := by
  rw [publish]

theorem publish_nil (room : Nat) (seen : List String) :
    p.publish room seen ([] : List (FindingOf ν)) = [] := by
  cases room with
  | zero => exact publish_zero p seen []
  | succ room => simp only [publish]

/-- What has to hold for a finding to be published behind others. -/
structure Next (room : Nat) (seen : List String) (before : List (FindingOf ν)) (f : FindingOf ν) :
    Prop where
  isSevere : p.isSevere f = true
  digest_notMem : f.digest ∉ seen
  fingerprint_notMem : some f.digest ∉ (p.publish room seen before).map (·.fingerprint)
  length_lt : (p.publish room seen before).length < room

theorem not_next_zero (seen : List String) (before : List (FindingOf ν)) (f : FindingOf ν) :
    ¬p.Next 0 seen before f :=
  fun h => Nat.not_lt_zero _ h.length_lt

theorem next_nil_iff (room : Nat) (seen : List String) (f : FindingOf ν) :
    p.Next (room + 1) seen [] f ↔ ¬(!p.isSevere f || seen.contains f.digest) = true := by
  rw [Bool.or_eq_true, Bool.not_eq_true', List.contains_iff_mem, not_or, Bool.not_eq_false]
  constructor
  · exact fun h => ⟨h.isSevere, h.digest_notMem⟩
  · rintro ⟨hsevere, hseen⟩
    refine ⟨hsevere, hseen, ?_, ?_⟩
    · rw [publish_nil]
      exact List.not_mem_nil
    · rw [publish_nil]
      exact Nat.succ_pos room

theorem next_cons_of_skip {first : FindingOf ν} {seen : List String}
    (h : (!p.isSevere first || seen.contains first.digest) = true) (room : Nat)
    (rest : List (FindingOf ν)) (f : FindingOf ν) :
    p.Next room seen (first :: rest) f ↔ p.Next room seen rest f := by
  have hpublish := p.publish_cons_of_skip h room rest
  constructor
  · rintro ⟨hsevere, hseen, hprint, hlt⟩
    exact ⟨hsevere, hseen, hpublish ▸ hprint, hpublish ▸ hlt⟩
  · rintro ⟨hsevere, hseen, hprint, hlt⟩
    exact ⟨hsevere, hseen, hpublish.symm ▸ hprint, hpublish.symm ▸ hlt⟩

/-- A finding that is published takes a place, and its digest is taken from then on. -/
theorem next_cons_of_keep {first : FindingOf ν} {seen : List String}
    (h : ¬(!p.isSevere first || seen.contains first.digest) = true) (room : Nat)
    (rest : List (FindingOf ν)) (f : FindingOf ν) :
    p.Next (room + 1) seen (first :: rest) f ↔ p.Next room (first.digest :: seen) rest f := by
  have hpublish := p.publish_cons_of_keep h room rest
  constructor
  · rintro ⟨hsevere, hseen, hprint, hlt⟩
    rw [hpublish, List.map_cons, fingerprint_published, List.mem_cons, not_or,
      Option.some_inj] at hprint
    rw [hpublish, List.length_cons] at hlt
    refine ⟨hsevere, ?_, hprint.2, Nat.lt_of_succ_lt_succ hlt⟩
    rw [List.mem_cons, not_or]
    exact ⟨hprint.1, hseen⟩
  · rintro ⟨hsevere, hseen, hprint, hlt⟩
    rw [List.mem_cons, not_or] at hseen
    refine ⟨hsevere, hseen.2, ?_, ?_⟩
    · rw [hpublish, List.map_cons, fingerprint_published, List.mem_cons, not_or, Option.some_inj]
      exact ⟨hseen.1, hprint⟩
    · rw [hpublish, List.length_cons]
      exact Nat.succ_lt_succ hlt

open scoped Classical in
theorem publish_append_singleton (room : Nat) (seen : List String) (before : List (FindingOf ν))
    (f : FindingOf ν) :
    p.publish room seen (before ++ [f]) = p.publish room seen before ++
      if p.Next room seen before f then [p.published f] else [] := by
  induction before generalizing room seen with
  | nil =>
    rw [List.nil_append, publish_nil, List.nil_append]
    cases room with
    | zero => rw [publish_zero, if_neg (p.not_next_zero seen [] f)]
    | succ room =>
      by_cases h : (!p.isSevere f || seen.contains f.digest) = true
      · have hnext := mt (p.next_nil_iff room seen f).1 (not_not.2 h)
        rw [publish_cons_of_skip p h, publish_nil, if_neg hnext]
      · have hnext := (p.next_nil_iff room seen f).2 h
        rw [publish_cons_of_keep p h, publish_nil, if_pos hnext]
  | cons first rest ih =>
    rw [List.cons_append]
    by_cases h : (!p.isSevere first || seen.contains first.digest) = true
    · rw [publish_cons_of_skip p h, publish_cons_of_skip p h, ih]
      simp only [p.next_cons_of_skip h]
    · cases room with
      | zero => simp [publish_zero, not_next_zero]
      | succ room =>
        rw [publish_cons_of_keep p h, publish_cons_of_keep p h, ih, List.cons_append]
        simp only [p.next_cons_of_keep h]

theorem publish_concat {room : Nat} {seen : List String} {before : List (FindingOf ν)}
    {f : FindingOf ν} (h : p.Next room seen before f) :
    p.publish room seen (before ++ [f]) = p.publish room seen before ++ [p.published f] := by
  rw [publish_append_singleton, if_pos h]

theorem publish_concat_of_not {room : Nat} {seen : List String} {before : List (FindingOf ν)}
    {f : FindingOf ν} (h : ¬p.Next room seen before f) :
    p.publish room seen (before ++ [f]) = p.publish room seen before := by
  rw [publish_append_singleton, if_neg h, List.append_nil]

/-! ### All findings -/

/-- Findings that are not severe enough make no difference. -/
theorem publish_filter_isSevere (room : Nat) (seen : List String)
    (findings : List (FindingOf ν)) :
    p.publish room seen (findings.filter p.isSevere) = p.publish room seen findings := by
  induction findings generalizing room seen with
  | nil => rfl
  | cons f rest ih =>
    by_cases hsevere : p.isSevere f = true
    · rw [List.filter_cons_of_pos hsevere]
      by_cases h : (!p.isSevere f || seen.contains f.digest) = true
      · rw [publish_cons_of_skip p h, publish_cons_of_skip p h, ih]
      · cases room with
        | zero => rw [publish_zero, publish_zero]
        | succ room => rw [publish_cons_of_keep p h, publish_cons_of_keep p h, ih]
    · have h : (!p.isSevere f || seen.contains f.digest) = true := by
        rw [Bool.not_eq_true] at hsevere
        rw [hsevere]
        rfl
      rw [List.filter_cons_of_neg hsevere, publish_cons_of_skip p h, ih]

/-- What holds of nothing, and still holds when the next finding is published, holds of all that is
published. -/
theorem publish_induction {room : Nat} {motive : List (FindingOf ν) → Prop} (nil : motive [])
    (concat : ∀ before f, p.Next room [] before f → motive (p.publish room [] before) →
      motive (p.publish room [] before ++ [p.published f])) (findings : List (FindingOf ν)) :
    motive (p.publish room [] findings) := by
  induction findings using List.reverseRecOn with
  | nil => rwa [publish_nil]
  | append_singleton before f ih =>
    by_cases h : p.Next room [] before f
    · rw [p.publish_concat h]
      exact concat before f h ih
    · rwa [p.publish_concat_of_not h]

theorem length_publish_le (room : Nat) (findings : List (FindingOf ν)) :
    (p.publish room [] findings).length ≤ room := by
  refine p.publish_induction (motive := fun out => out.length ≤ room) (Nat.zero_le room)
    (fun before f h _ => ?_) findings
  rw [List.length_append, List.length_singleton]
  exact h.length_lt

theorem nodup_fingerprints_publish (room : Nat) (findings : List (FindingOf ν)) :
    ((p.publish room [] findings).map (·.fingerprint)).Nodup := by
  refine p.publish_induction (motive := fun out => (out.map (·.fingerprint)).Nodup) List.nodup_nil
    (fun before f h ih => ?_) findings
  rw [List.map_append, List.map_singleton]
  refine List.nodup_append.2 ⟨ih, List.pairwise_singleton _ _, fun a ha b hb e => ?_⟩
  rw [List.mem_singleton.1 hb, fingerprint_published] at e
  exact h.fingerprint_notMem (e ▸ ha)

theorem isSevere_publish (room : Nat) (findings : List (FindingOf ν)) :
    ∀ g ∈ p.publish room [] findings, p.isSevere g = true := by
  refine p.publish_induction (motive := fun out => ∀ g ∈ out, p.isSevere g = true)
    (fun _ hg => absurd hg List.not_mem_nil) ?_ findings
  intro before f h ih g hg
  rcases List.mem_append.1 hg with hg | hg
  · exact ih g hg
  · rw [List.mem_singleton.1 hg]
    exact h.isSevere

/-- More findings only add to what is published. -/
theorem publish_prefix_append (room : Nat) (before after : List (FindingOf ν)) :
    p.publish room [] before <+: p.publish room [] (before ++ after) := by
  induction after using List.reverseRecOn with
  | nil => simp only [List.append_nil, List.prefix_rfl]
  | append_singleton after f ih =>
    refine ih.trans ?_
    rw [← List.append_assoc]
    by_cases h : p.Next room [] (before ++ after) f
    · rw [p.publish_concat h]
      exact List.prefix_append _ _
    · simp only [p.publish_concat_of_not h, List.prefix_rfl]

/-- With less room the first ones are published. -/
theorem publish_eq_take {m n : Nat} (h : m ≤ n) (findings : List (FindingOf ν)) :
    p.publish m [] findings = (p.publish n [] findings).take m := by
  induction findings using List.reverseRecOn with
  | nil => rw [publish_nil, publish_nil, List.take_nil]
  | append_singleton before f ih =>
    have hlength : (p.publish m [] before).length = min m (p.publish n [] before).length := by
      rw [ih, List.length_take]
    by_cases hm : p.Next m [] before f
    · -- Where there is room among `m`, nothing has been cut off yet.
      have hlt := hm.length_lt
      have hall : p.publish m [] before = p.publish n [] before := by
        rw [ih, List.take_of_length_le (by omega)]
      have hn : p.Next n [] before f :=
        ⟨hm.isSevere, List.not_mem_nil, hall ▸ hm.fingerprint_notMem, by rw [← hall]; omega⟩
      rw [p.publish_concat hm, p.publish_concat hn, ← hall,
        List.take_of_length_le (by rw [List.length_append, List.length_singleton]; omega)]
    · rw [p.publish_concat_of_not hm, ih]
      by_cases hn : p.Next n [] before f
      · have hle : m ≤ (p.publish n [] before).length := by
          by_contra hlt
          refine hm ⟨hn.isSevere, List.not_mem_nil, ?_, by omega⟩
          rw [ih, List.take_of_length_le (by omega)]
          exact hn.fingerprint_notMem
        rw [p.publish_concat hn, List.take_append_of_le_length hle]
      · rw [p.publish_concat_of_not hn]

/-! ### Findings without a digest -/

/-- A finding matters if it is severe enough and not all places are taken. -/
theorem publishFault?_concat (room : Nat) (before : List (FindingOf ν)) (f : FindingOf ν) :
    p.publishFault? room (before ++ [f]) = (p.publishFault? room before).or
      (if p.isSevere f = true ∧ (p.publish room [] before).length < room
        then f.digestFault? else none) := by
  by_cases hsevere : p.isSevere f = true
  · have hfilter : (before ++ [f]).filter p.isSevere = before.filter p.isSevere ++ [f] := by
      rw [List.filter_append, List.filter_cons_of_pos hsevere, List.filter_nil]
    rw [publishFault?, hfilter, List.zipIdx_append, List.findSome?_append, publishFault?]
    congr 1
    · refine findSome?_congr fun ⟨g, i⟩ hg => ?_
      have hlt := (List.mem_zipIdx hg).2.1
      have htake : (before.filter p.isSevere ++ [f]).take i = (before.filter p.isSevere).take i :=
        List.take_append_of_le_length (by omega)
      simp only [htake]
    · rw [Nat.zero_add, List.zipIdx_singleton, List.findSome?_singleton]
      simp only [List.take_left, publish_filter_isSevere, hsevere, true_and]
      cases f.digestFault? with
      | none => simp
      | some e => rfl
  · have hfilter : (before ++ [f]).filter p.isSevere = before.filter p.isSevere := by
      rw [List.filter_append, List.filter_cons_of_neg hsevere, List.filter_nil, List.append_nil]
    rw [publishFault?, hfilter, if_neg fun h => hsevere h.1, Option.or_none]
    rfl

theorem publishFault?_concat_eq_none {room : Nat} {before : List (FindingOf ν)} {f : FindingOf ν} :
    p.publishFault? room (before ++ [f]) = none ↔ p.publishFault? room before = none ∧
      (p.isSevere f = true → (p.publish room [] before).length < room → f.digestFault? = none) := by
  rw [publishFault?_concat, Option.or_eq_none_iff]
  refine and_congr_right fun _ => ?_
  split
  · rename_i h
    exact ⟨fun hf _ _ => hf, fun hf => hf h.1 h.2⟩
  · rename_i h
    exact ⟨fun _ hs hlt => absurd ⟨hs, hlt⟩ h, fun _ => rfl⟩

theorem publishFault?_of_append {room : Nat} {before after : List (FindingOf ν)}
    (h : p.publishFault? room (before ++ after) = none) : p.publishFault? room before = none := by
  induction after using List.reverseRecOn with
  | nil => rwa [List.append_nil] at h
  | append_singleton after f ih =>
    rw [← List.append_assoc, publishFault?_concat_eq_none] at h
    exact ih h.1

/-- With less room no other finding matters. -/
theorem publishFault?_of_le {m n : Nat} (hmn : m ≤ n) {findings : List (FindingOf ν)}
    (h : p.publishFault? n findings = none) : p.publishFault? m findings = none := by
  induction findings using List.reverseRecOn with
  | nil => rfl
  | append_singleton before f ih =>
    rw [publishFault?_concat_eq_none] at h ⊢
    refine ⟨ih h.1, fun hsevere hlt => h.2 hsevere ?_⟩
    rw [p.publish_eq_take hmn, List.length_take] at hlt
    omega

/-- What stops the selection is a finding without a digest, severe enough, for which there is a
place. -/
theorem exists_of_publishFault? {room : Nat} {findings : List (FindingOf ν)} {e : Failure}
    (h : p.publishFault? room findings = some e) :
    ∃ f ∈ findings, p.isSevere f = true ∧ f.digestFault? = some e ∧ 0 < room := by
  induction findings using List.reverseRecOn with
  | nil => exact absurd h (Option.some_ne_none e).symm
  | append_singleton before f ih =>
    rw [publishFault?_concat, Option.or_eq_some_iff] at h
    rcases h with h | ⟨-, h⟩
    · obtain ⟨g, hg, hrest⟩ := ih h
      exact ⟨g, List.mem_append_left _ hg, hrest⟩
    · split at h
      · rename_i hf
        exact ⟨f, List.mem_append_right _ (List.mem_singleton_self f), hf.1, h,
          Nat.lt_of_le_of_lt (Nat.zero_le _) hf.2⟩
      · exact absurd h (Option.some_ne_none e).symm

/-- If nothing stops the selection, what is published behind other findings is for some of those
that are severe enough, in their order. -/
theorem exists_picked_append {room : Nat} (before : List (FindingOf ν))
    {after : List (FindingOf ν)} (h : p.publishFault? room (before ++ after) = none) :
    ∃ picked more, picked.Sublist after ∧ List.Forall₂ PublishedAs picked more ∧
      p.publish room [] (before ++ after) = p.publish room [] before ++ more := by
  induction after using List.reverseRecOn with
  | nil => exact ⟨[], [], .slnil, .nil, by rw [List.append_nil, List.append_nil]⟩
  | append_singleton after f ih =>
    rw [← List.append_assoc, publishFault?_concat_eq_none] at h
    obtain ⟨picked, more, hsub, hpicked, hpublish⟩ := ih h.1
    rw [← List.append_assoc]
    by_cases hn : p.Next room [] (before ++ after) f
    · have hpublished := p.publishedAs_published (h.2 hn.isSevere hn.length_lt)
      refine ⟨picked ++ [f], more ++ [p.published f], hsub.append (List.Sublist.refl _),
        List.rel_append hpicked (.cons hpublished .nil), ?_⟩
      rw [p.publish_concat hn, hpublish, List.append_assoc]
    · refine ⟨picked, more, hsub.trans (List.sublist_append_left _ _), hpicked, ?_⟩
      rw [p.publish_concat_of_not hn, hpublish]

theorem exists_picked {room : Nat} {findings : List (FindingOf ν)}
    (h : p.publishFault? room findings = none) :
    ∃ picked, picked.Sublist findings ∧
      List.Forall₂ PublishedAs picked (p.publish room [] findings) := by
  obtain ⟨picked, more, hsub, hpicked, hpublish⟩ := p.exists_picked_append [] h
  rw [publish_nil, List.nil_append, List.nil_append] at hpublish
  exact ⟨picked, hsub, hpublish ▸ hpicked⟩

/-- Where there is room for all findings, all are severe enough and none is like another, all are
published. -/
theorem publish_eq_map {room : Nat} {findings : List (FindingOf ν)}
    (hsevere : ∀ f ∈ findings, p.isSevere f = true)
    (hnodup : (findings.map FindingOf.digest).Nodup) (hroom : findings.length ≤ room) :
    p.publish room [] findings = findings.map p.published := by
  induction findings using List.reverseRecOn with
  | nil => exact p.publish_nil room []
  | append_singleton before f ih =>
    rw [List.map_append, List.nodup_append] at hnodup
    rw [List.length_append, List.length_singleton] at hroom
    have hbefore := ih (fun g hg => hsevere g (List.mem_append_left _ hg)) hnodup.1 (by omega)
    have hprints : (before.map p.published).map (·.fingerprint) =
        (before.map FindingOf.digest).map some := by
      rw [List.map_map, List.map_map]
      rfl
    have hnext : p.Next room [] before f := by
      refine ⟨hsevere f (List.mem_append_right _ (List.mem_singleton_self f)), List.not_mem_nil,
        fun hmem => ?_, ?_⟩
      · rw [hbefore, hprints, List.mem_map_of_injective fun _ _ => Option.some.inj] at hmem
        exact hnodup.2.2 _ hmem _ (List.mem_singleton_self _) rfl
      · rw [hbefore, List.length_map]
        omega
    rw [p.publish_concat hnext, hbefore, List.map_append, List.map_singleton]

end PatchReview.PolicySettings
