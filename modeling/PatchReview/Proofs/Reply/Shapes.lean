import PatchReview.Proofs.Reply.Written
import PatchReview.Reviewer

/-! Where the findings stand in a reply.

A reply that was written for some findings may be the whole of what a model answers, stand in a
fenced block behind some text, or stand between other texts. The texts of the findings cannot shift
the stretch that is found: outside of quotes nothing that is written marks a fence, inside of quotes
no line ends. So the findings are made again, except that a text in front which itself starts as
JSON may make reading the whole reply fail first (`ofReply_written`). -/
namespace PatchReview.Reply

open Text Json

/-! ### Fences -/

/-- Three backticks. -/
def fence : List Char := ['\x60', '\x60', '\x60']

theorem exists_eq_fence_append {opening : List Char} (h : opening ∈ openings) :
    ∃ c u, opening = fence ++ c :: u ∧ c ≠ '\x60' := by
  simp only [openings, List.mem_cons, List.not_mem_nil, or_false] at h
  rcases h with rfl | rfl
  · exact ⟨_, _, rfl, by decide⟩
  · exact ⟨_, _, rfl, by decide⟩

/-- A word without a certain character occurs on one side of it or on the other. -/
theorem infix_append_cons {word a b : List Char} {c : Char} (hc : c ∉ word)
    (h : word <:+: a ++ c :: b) : word <:+: a ∨ word <:+: b := by
  obtain ⟨u, v, huv⟩ := h
  rcases List.append_eq_append_iff.1 huv with ⟨x, ha, -⟩ | ⟨x, hu, hb⟩
  · exact .inl ⟨u, x, ha.symm⟩
  · cases x with
    | nil => exact .inl ⟨u, [], by rw [List.append_nil, hu, List.append_nil]⟩
    | cons d x =>
      obtain ⟨rfl, rfl⟩ := List.cons.inj hb
      rcases List.append_eq_append_iff.1 hu with ⟨y, -, hword⟩ | ⟨y, -, hword⟩
      · exact absurd (hword ▸ List.mem_append_right _ List.mem_cons_self) hc
      · cases y with
        | nil =>
          rw [List.nil_append] at hword
          exact absurd (hword ▸ List.mem_cons_self) hc
        | cons d y =>
          obtain ⟨-, rfl⟩ := List.cons.inj hword
          exact .inr ⟨y, v, rfl⟩

/-- Inside of quotes no line ends, and outside of them there is no fence: no opening of a block
stands in what is written. -/
theorem not_opening_infix {w : List Char} (hw : w.IsChain MayPrecede) {opening : List Char}
    (hopening : opening ∈ openings) : ¬opening <:+: w := by
  rintro ⟨u, v, huv⟩
  rw [List.isChain_iff_forall_rel_of_append_cons_cons] at hw
  simp only [openings, List.mem_cons, List.not_mem_nil, or_false] at hopening
  rcases hopening with rfl | rfl
  · have hrel : MayPrecede 'n' '\n' :=
      hw (show w = (u ++ fence ++ ['j', 's', 'o']) ++ 'n' :: '\n' :: v by simp [← huv, fence])
    exact absurd rfl (hrel.1 rfl).2
  · have hrel : MayPrecede '\x60' '\n' :=
      hw (show w = (u ++ ['\x60', '\x60']) ++ '\x60' :: '\n' :: v by simp [← huv])
    exact absurd rfl (hrel.1 rfl).1

theorem not_unfenced_of_closing {a b : List Char} : ¬Unfenced (a ++ (closingFence ++ b)) := by
  intro h
  have hrel : MayPrecede '\n' '\x60' :=
    List.isChain_iff_forall_rel_of_append_cons_cons.1 h.chain
      (show _ = a ++ '\n' :: '\x60' :: ('\x60' :: '\x60' :: b) from rfl)
  exact absurd rfl (hrel.2 rfl)

/-- The content of a block goes up to its closing. -/
theorem untilFence_append {w : List Char} (h : w.IsChain MayPrecede) (s : List Char) :
    untilFence (w ++ (closingFence ++ s)) = some w := by
  induction w with
  | nil => rfl
  | cons c w ih =>
    have hopen : startsWith closingFence (c :: (w ++ (closingFence ++ s))) = false := by
      rw [Bool.eq_false_iff]
      intro hstarts
      obtain ⟨rest, hrest⟩ := (startsWith_iff _ _).1 hstarts
      obtain ⟨rfl, hbehind⟩ := List.cons.inj hrest
      cases w with
      | nil => exact absurd (List.cons.inj hbehind).1 (by decide)
      | cons d w =>
        obtain ⟨rfl, -⟩ := List.cons.inj hbehind
        exact absurd rfl (h.rel.2 rfl)
    rw [List.cons_append, untilFence, hopen, if_neg Bool.false_ne_true, ih h.tail]
    rfl

theorem afterFence?_opening {opening : List Char} (h : opening ∈ openings) (s : List Char) :
    afterFence? (opening ++ s) = some s := by
  simp only [openings, List.mem_cons, List.not_mem_nil, or_false] at h
  rcases h with rfl | rfl <;> rfl

/-- In front of a fence no block starts, unless there is a fence. -/
theorem afterFence?_eq_none {front : List Char} (hne : front ≠ []) (h : ¬fence <:+: front)
    (s : List Char) : afterFence? (front ++ (fence ++ s)) = none := by
  rw [Option.eq_none_iff_forall_ne_some]
  intro t ht
  obtain ⟨opening, hopening, heq⟩ := exists_opening ht
  obtain ⟨c, u, rfl, hc⟩ := exists_eq_fence_append hopening
  -- A block that starts in front has a fence there, or the fourth of its characters in the fence.
  match front with
  | [] => exact hne rfl
  | [_] =>
    simp only [fence, List.cons_append, List.nil_append, List.cons.injEq] at heq
    exact hc heq.2.2.2.1.symm
  | [_, _] =>
    simp only [fence, List.cons_append, List.nil_append, List.cons.injEq] at heq
    exact hc heq.2.2.2.1.symm
  | x :: y :: z :: front =>
    simp only [fence, List.cons_append, List.nil_append, List.cons.injEq] at heq
    obtain ⟨rfl, rfl, rfl, -⟩ := heq
    exact h ⟨[], front, rfl⟩

theorem findSuffix?_append {α : Type} {p : List Char → Option α} {front rest : List Char}
    (h : ∀ t, t ≠ [] → t <:+ front → p (t ++ rest) = none) :
    findSuffix? p (front ++ rest) = findSuffix? p rest := by
  induction front with
  | nil => rfl
  | cons c front ih =>
    have hhere := h (c :: front) (List.cons_ne_nil c front) List.suffix_rfl
    rw [List.cons_append] at hhere ⊢
    rw [findSuffix?, hhere]
    exact ih fun t hne ht => h t hne (ht.trans (List.suffix_cons c front))

theorem findSuffix?_of_some {α : Type} {p : List Char → Option α} {s : List Char} {a : α}
    (h : p s = some a) : findSuffix? p s = some a := by
  cases s with
  | nil => exact h
  | cons c s => rw [findSuffix?, h]

/-- The first fenced block behind a text without a fence. -/
theorem fenced?_append {front : List Char} (hfront : ¬fence <:+: front) {opening : List Char}
    (hopening : opening ∈ openings) {c : Char} {w : List Char} (hw : (c :: w).IsChain MayPrecede)
    (s : List Char) :
    fenced? (front ++ (opening ++ (c :: w ++ (closingFence ++ s)))) = some (c :: w) := by
  obtain ⟨d, u, hfence, -⟩ := exists_eq_fence_append hopening
  have hhere : fencedHere? (opening ++ (c :: w ++ (closingFence ++ s))) = some (c :: w) := by
    rw [fencedHere?, afterFence?_opening hopening]
    have hcontent : w.IsChain MayPrecede := hw.tail
    show (untilFence (w ++ (closingFence ++ s))).map (c :: ·) = _
    rw [untilFence_append hcontent]
    rfl
  have hskip : ∀ t, t ≠ [] → t <:+ front →
      fencedHere? (t ++ (opening ++ (c :: w ++ (closingFence ++ s)))) = none := by
    intro t hne ht
    rw [fencedHere?, hfence, List.append_assoc,
      afterFence?_eq_none hne fun hpart => hfront (hpart.trans ht.isInfix)]
    rfl
  rw [fenced?, findSuffix?_append hskip, findSuffix?_of_some hhere]

/-! ### Braces -/

theorem toLastBrace_append (w : List Char) {s : List Char} (hs : '\x7d' ∉ s) :
    toLastBrace (w ++ '\x7d' :: s) = w ++ ['\x7d'] := by
  have hback : ∀ c ∈ s.reverse, (c != '\x7d') = true := by
    intro c hc
    rw [bne_iff_ne]
    rintro rfl
    exact hs (List.mem_reverse.1 hc)
  rw [toLastBrace, List.reverse_append, List.reverse_cons, List.append_assoc,
    List.dropWhile_append_of_pos hback, List.singleton_append,
    List.dropWhile_cons_of_neg (by decide), List.reverse_cons, List.reverse_reverse]

/-- The widest stretch in braces is that between texts without them. -/
theorem stretch?_append {front back inner : List Char} (hfront : '\x7b' ∉ front)
    (hback : '\x7d' ∉ back)
    (hword : occursIn "\"findings\"".toList ('\x7b' :: (inner ++ ['\x7d'])) = true) :
    stretch? (front ++ ('\x7b' :: (inner ++ ['\x7d']) ++ back)) =
      some ('\x7b' :: (inner ++ ['\x7d'])) := by
  have hopen : ∀ c ∈ front, (c != '\x7b') = true := by
    intro c hc
    rw [bne_iff_ne]
    rintro rfl
    exact hfront hc
  have hstretch : toLastBrace ((front ++ ('\x7b' :: (inner ++ ['\x7d']) ++ back)).dropWhile
      (· != '\x7b')) = '\x7b' :: (inner ++ ['\x7d']) := by
    rw [List.dropWhile_append_of_pos hopen, List.cons_append,
      List.dropWhile_cons_of_neg (by decide), List.append_assoc, List.singleton_append,
      ← List.cons_append, toLastBrace_append _ hback, List.cons_append]
  rw [stretch?, hstretch, if_pos hword]

/-- Between braces that were written no fenced block starts. -/
theorem fenced?_eq_none {front back inner : List Char} (hfront : ¬fence <:+: front)
    (hback : ¬fence <:+: back) (hw : ('\x7b' :: (inner ++ ['\x7d'])).IsChain MayPrecede) :
    fenced? (front ++ ('\x7b' :: (inner ++ ['\x7d']) ++ back)) = none := by
  rw [Option.eq_none_iff_forall_ne_some]
  intro t ht
  obtain ⟨opening, hopening, before, behind, heq⟩ := exists_of_fenced? ht
  have hbraces : ∀ opening ∈ openings, '\x7b' ∉ opening ∧ '\x7d' ∉ opening := by decide
  have ⟨hopen, hclose⟩ := hbraces opening hopening
  have hfence : fence <:+: opening := by
    obtain ⟨c, u, rfl, -⟩ := exists_eq_fence_append hopening
    exact (List.prefix_append _ _).isInfix
  have hpart : opening <:+: front ++ '\x7b' :: (inner ++ '\x7d' :: back) := by
    refine ⟨before, t ++ (closingFence ++ behind), ?_⟩
    rw [List.append_assoc, ← heq]
    simp
  rcases infix_append_cons hopen hpart with hpart | hpart
  · exact hfront (hfence.trans hpart)
  rcases infix_append_cons hclose hpart with hpart | hpart
  · refine not_opening_infix hw hopening (hpart.trans ?_)
    exact ⟨['\x7b'], ['\x7d'], rfl⟩
  · exact hback (hfence.trans hpart)

/-! ### Replies -/

section
variable [StandIns]

/-- The findings are made again of a reply, without their fingerprints. -/
def Restores (findings : List Finding) (reply : String) : Prop :=
  Finding.ofReply reply = .ok (findings.map fun f => { f with fingerprint := none })

/-- A text that starts as a list, a table or a number does. -/
def Misleads (front : List Char) : Prop := ∃ c rest, skipSpace front = c :: rest ∧ starts c = true

/-- Reading a reply as a whole fails, since what stands in front starts as JSON. -/
def GivesUp (front : List Char) (reply : String) : Prop :=
  Misleads front ∧ ∃ e, valueOf? reply.toList = .error e ∧ Finding.ofReply reply = .error e ∧
    Oversized reply.toList e

/-- What reading a reply as a whole may come to before another stretch of it is read. -/
def Passes (findings : List Finding) (front : List Char) (reply : String) : Prop :=
  valueOf? reply.toList = .ok (some (.table (tableOf findings))) ∨
    (∃ v, valueOf? reply.toList = .ok v ∧ table? v = none) ∨
    ∃ e, valueOf? reply.toList = .error e ∧ Misleads front

variable {findings : List Finding} {reply : String}

theorem restores_of_firstTable? (h : ∀ f ∈ findings, IsListable f)
    (hfirst : firstTable? [some reply.toList, fenced? reply.toList, stretch? reply.toList] =
      .ok (some (tableOf findings))) : Restores findings reply := by
  have hfound : Reply.findings reply = .ok (findings.map (·.entries)) := by
    simp only [Reply.findings, hfirst, bind, Except.bind, tablesIn_tableOf]
    rfl
  rw [Restores, Finding.ofReply, hfound]
  exact mapM_ofEntries h

/-- With the findings in one of the other stretches they are made again, or reading gives up. -/
theorem restores_or_givesUp (h : ∀ f ∈ findings, IsListable f) {front : List Char}
    (hwhole : Passes findings front reply)
    (hlater : firstTable? [fenced? reply.toList, stretch? reply.toList] =
      .ok (some (tableOf findings))) : Restores findings reply ∨ GivesUp front reply := by
  rcases hwhole with hvalue | ⟨v, hvalue, hv⟩ | ⟨e, hvalue, hfront⟩
  · refine .inl (restores_of_firstTable? h ?_)
    rw [firstTable?, hvalue]
    rfl
  · refine .inl (restores_of_firstTable? h ?_)
    rw [firstTable?, hvalue]
    simp only [bind, Except.bind, hv, hlater]
  · refine .inr ⟨hfront, e, hvalue, ?_, oversized_of_valueOf? hvalue⟩
    rw [Finding.ofReply, Reply.findings, firstTable?, hvalue]
    rfl

/-- Only a text that starts as JSON makes reading fail. -/
theorem misleads_of_valueOf? {s : List Char} {e : Failure} (h : valueOf? s = .error e) :
    Misleads s := by
  by_contra hno
  have hs : ∀ c ∈ (skipSpace s).head?, starts c = false := by
    intro c hc
    obtain ⟨rest, hrest⟩ := List.head?_eq_some_iff.1 hc
    exact Bool.eq_false_iff.2 fun hstarts => hno ⟨c, rest, hrest, hstarts⟩
  unfold valueOf? at h
  split at h
  · exact absurd h (by simp)
  · exact absurd h (by simp)
  · rename_i hread
    exact absurd (readChars_malformed hs hread) (by simp)
  · rename_i hread
    exact absurd (readChars_malformed hs hread) (by simp)

omit [StandIns] in
/-- What starts as JSON in front of something else does so by itself. -/
theorem Misleads.of_append {front back : List Char} (h : Misleads (front ++ back))
    (hback : ∀ c ∈ (skipSpace back).head?, starts c = false) : Misleads front := by
  rcases skipSpace_append_cases front back with ⟨-, hskip⟩ | ⟨c, rest, hc, hskip⟩
  · obtain ⟨c, rest, hrest, hstarts⟩ := h
    rw [hskip] at hrest
    exact absurd hstarts (by simp [hback c (hrest ▸ rfl)])
  · obtain ⟨d, rest', hd, hstarts⟩ := h
    obtain ⟨rfl, -⟩ := List.cons.inj (hskip.symm.trans hd)
    exact ⟨c, rest, hc, hstarts⟩

/-- A reply with a fenced block is no JSON as a whole. -/
theorem passes_of_fenced {front w back : List Char} {opening : List Char}
    (hopening : opening ∈ openings)
    (hreply : reply.toList = front ++ (opening ++ (w ++ (closingFence ++ back)))) :
    Passes findings front reply := by
  cases hvalue : valueOf? reply.toList with
  | ok v =>
    cases v with
    | none => exact .inr (.inl ⟨none, hvalue, rfl⟩)
    | some v =>
      have hunfenced := (unfenced_of_readChars (readChars_of_valueOf? hvalue)).1
      rw [hreply, ← List.append_assoc, ← List.append_assoc] at hunfenced
      exact absurd hunfenced not_unfenced_of_closing
  | error e =>
    have hmisleads := misleads_of_valueOf? hvalue
    rw [hreply] at hmisleads
    refine .inr (.inr ⟨e, hvalue, hmisleads.of_append fun c hc => ?_⟩)
    obtain ⟨d, u, rfl, -⟩ := exists_eq_fence_append hopening
    obtain rfl := Option.some.inj hc
    decide

/-- A table between texts without its braces is the table of the whole or not found in it. -/
theorem passes_of_between {front w back : List Char}
    (hw : ReadsBack depthLimit w (.table (tableOf findings))) (hfront : '\x7b' ∉ front)
    (hreply : reply.toList = front ++ (w ++ back)) : Passes findings front reply := by
  rcases skipSpace_append_cases front (w ++ back) with ⟨-, hskip⟩ | ⟨c, rest, hc, hskip⟩
  · rw [hw.skipSpace_eq] at hskip
    have hbound : w.length ≤ 2 * reply.toList.length + 2 := by
      rw [hreply, List.length_append, List.length_append]
      omega
    have hread : readChars reply.toList =
        if (skipSpace back).isEmpty then .ok (.table (tableOf findings)) else .error .malformed := by
      rw [readChars, hreply, hskip, ← hreply, hw.read hbound fun i hi => absurd hi (by simp)]
      rfl
    by_cases hend : (skipSpace back).isEmpty = true
    · rw [if_pos hend] at hread
      exact .inl (by rw [valueOf?, hread])
    · rw [if_neg hend] at hread
      exact .inr (.inl ⟨none, by rw [valueOf?, hread], rfl⟩)
  · rw [← hreply] at hskip
    cases hvalue : valueOf? reply.toList with
    | ok v =>
      refine .inr (.inl ⟨v, hvalue, Option.eq_none_iff_forall_ne_some.2 fun entries htable => ?_⟩)
      rw [table?_eq_some_iff.1 htable] at hvalue
      obtain ⟨⟨v', rest'⟩, hread, hend⟩ :=
        Outcome.bind_eq_ok_iff.1 (readChars_of_valueOf? hvalue)
      have hbrace : (skipSpace reply.toList).head? ≠ some '\x7b' := by
        rw [hskip]
        intro hhead
        obtain rfl := Option.some.inj hhead
        exact hfront ((List.dropWhile_suffix _).subset (hc ▸ List.mem_cons_self))
      dsimp only at hend
      split at hend
      · exact readValue_ne_table hbrace hread entries (Except.ok.inj hend)
      · exact absurd hend (by simp)
    | error e =>
      obtain ⟨d, rest', hd, hstarts⟩ := misleads_of_valueOf? hvalue
      obtain ⟨rfl, -⟩ := List.cons.inj (hskip.symm.trans hd)
      exact .inr (.inr ⟨e, hvalue, c, rest, hc, hstarts⟩)

/-- The text of some findings is a table in braces with the word for findings. -/
theorem exists_written (findings : List Finding) :
    ∃ inner, (written findings).toList = '\x7b' :: (inner ++ ['\x7d']) ∧
      occursIn "\"findings\"".toList ('\x7b' :: (inner ++ ['\x7d'])) = true := by
  refine ⟨"\"findings\": ".toList ++ (Report.listing findings).toList, ?_, rfl⟩
  rw [written, String.toList_append, String.toList_append]
  rfl

theorem valueOf?_written (h : ∀ f ∈ findings, IsListable f) :
    valueOf? (written findings).toList = .ok (some (.table (tableOf findings))) := by
  have hread := (readsBack_written h).readChars [] [] (by simp) (by simp)
  rw [List.nil_append, List.append_nil] at hread
  rw [valueOf?, hread]

theorem isChain_written (h : ∀ f ∈ findings, IsListable f) :
    (written findings).toList.IsChain MayPrecede :=
  (unfenced_of_readChars (readChars_of_valueOf? (valueOf?_written h))).1.chain

/-- Findings in a fenced block behind a text without a fence. -/
theorem ofReply_fenced (h : ∀ f ∈ findings, IsListable f) {front opening : List Char}
    (hfront : ¬fence <:+: front) (hopening : opening ∈ openings) (back : List Char)
    (hreply : reply.toList =
      front ++ (opening ++ ((written findings).toList ++ (closingFence ++ back)))) :
    Restores findings reply ∨ GivesUp front reply := by
  refine restores_or_givesUp h (passes_of_fenced hopening hreply) ?_
  obtain ⟨inner, hform, -⟩ := exists_written findings
  have hchain := isChain_written h
  have hvalue := valueOf?_written h
  rw [hform] at hchain hvalue hreply
  have hfenced := fenced?_append hfront hopening hchain back
  rw [← hreply] at hfenced
  rw [hfenced, firstTable?, hvalue]
  rfl

/-- Findings between texts without their braces and without a fence. -/
theorem ofReply_between (h : ∀ f ∈ findings, IsListable f) {front back : List Char}
    (hopen : '\x7b' ∉ front) (hclose : '\x7d' ∉ back) (hfront : ¬fence <:+: front)
    (hback : ¬fence <:+: back)
    (hreply : reply.toList = front ++ ((written findings).toList ++ back)) :
    Restores findings reply ∨ GivesUp front reply := by
  refine restores_or_givesUp h (passes_of_between (readsBack_written h) hopen hreply) ?_
  obtain ⟨inner, hform, hword⟩ := exists_written findings
  have hchain := isChain_written h
  have hvalue := valueOf?_written h
  rw [hform] at hchain hvalue hreply
  have hfenced := fenced?_eq_none hfront hback hchain
  have hstretch := stretch?_append hopen hclose hword
  rw [← hreply] at hfenced hstretch
  rw [hfenced, hstretch, firstTable?, firstTable?, hvalue]
  rfl

/-- The findings of a reply are made again, without their fingerprints, if they are the whole reply.
If they stand in a fenced block behind a text without a fence, or between texts without their braces
and without a fence, they are made again too, unless the text in front starts as a list, a table or
a number and reading it fails at what is too long or nested too deep. -/
theorem ofReply_written (h : ∀ f ∈ findings, IsListable f) :
    Restores findings (written findings) ∧
      (∀ front tag back : String, tag = "" ∨ tag = "json" → ¬fence <:+: front.toList →
        let reply := front ++ "\x60\x60\x60" ++ tag ++ "\n" ++ written findings ++
          "\n\x60\x60\x60" ++ back
        Restores findings reply ∨ GivesUp front.toList reply) ∧
      ∀ front back : String, '\x7b' ∉ front.toList → '\x7d' ∉ back.toList →
        ¬fence <:+: front.toList → ¬fence <:+: back.toList →
        let reply := front ++ written findings ++ back
        Restores findings reply ∨ GivesUp front.toList reply := by
  refine ⟨?_, fun front tag back htag hfront => ?_, fun front back hopen hclose hfront hback => ?_⟩
  · have hwhole : Restores findings (written findings) ∨ GivesUp [] (written findings) :=
      ofReply_between h List.not_mem_nil List.not_mem_nil (by decide) (by decide)
        (List.append_nil _).symm
    refine hwhole.resolve_right fun hgivesUp => ?_
    obtain ⟨⟨c, rest, hc, -⟩, -⟩ := hgivesUp
    exact absurd hc (List.cons_ne_nil c rest).symm
  · rcases htag with rfl | rfl
    · have hopening : (['\x60', '\x60', '\x60', '\n'] : List Char) ∈ openings := by decide
      exact ofReply_fenced h hfront hopening back.toList (by simp [closingFence])
    · have hopening :
          (['\x60', '\x60', '\x60', 'j', 's', 'o', 'n', '\n'] : List Char) ∈ openings := by decide
      exact ofReply_fenced h hfront hopening back.toList (by simp [closingFence])
  · exact ofReply_between h hopen hclose hfront hback (by simp)

end

/-- A finding whose text holds a fence and a brace, alone and between two other texts. -/
theorem ofReply_written_braced :
    letI : StandIns := ⟨.besides []⟩
    let f : Finding := {
      ruleId := "R", title := "T", severity := "info", file := "a.py", startLine := 1, endLine := 1,
      rationale := "", suggestion := "", content := "\x60\x60\x60json\n\x7d",
      fingerprint := some "f", occurrences := none }
    (∀ g ∈ [f], IsListable g) ∧ Restores [f] (written [f]) ∧
      Restores [f] ("Here: " ++ written [f] ++ " Done.") := by
  generalize StandIns.mk (.besides []) = standIns
  intro f
  have hone : isWritable 1 = true :=
    isWritable_of_readNatural (show readNatural ['1'] = .ok 1 from rfl)
  have hwritable : f.value.isWritable = true := by
    show Value.entriesWritable f.entries = true
    simp only [f, FindingOf.entries, FindingOf.optionalField, LineMark.value, Option.map_some,
      List.append_nil, List.cons_append, List.nil_append, Value.entriesWritable, Value.isWritable,
      hone, Bool.and_self]
  have hlistable : ∀ g ∈ [f], IsListable g := by
    intro g hg
    obtain rfl := List.mem_singleton.1 hg
    exact ⟨⟨by decide, by decide, rfl⟩, hwritable⟩
  obtain ⟨hwhole, -, hbetween⟩ := ofReply_written hlistable
  refine ⟨hlistable, hwhole, ?_⟩
  have h := hbetween "Here: " " Done." (by decide) (by decide) (by decide) (by decide)
  refine h.resolve_right fun hgivesUp => ?_
  obtain ⟨⟨c, rest, hc, hstarts⟩, -⟩ := hgivesUp
  obtain rfl : 'H' = c := (List.cons.inj hc).1
  exact absurd hstarts (by decide)

end PatchReview.Reply
