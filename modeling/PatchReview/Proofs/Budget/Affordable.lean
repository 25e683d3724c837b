import Mathlib.Logic.Basic
import PatchReview.Proofs.Budget.Compression
import PatchReview.Proofs.Budget.Truncation

/-! The lines that compression keeps.

The lines that are kept are the longest beginning of all lines that takes no more tokens than are
left (`affordable_isLongest`). Shrinking comments leaves nothing to shrink
(`shrinkComments_shrinkComments`), so that the lines of a compressed text are the lines that were
kept, and the marker if there is one. Whether the marker fits in the second time or not, it stands
behind the same lines then (`compress_compress`). -/
namespace PatchReview.Budget

open Text

/-! ### What lines take together -/

/-- The estimated tokens of some lines, each for itself. -/
def cost (b : Budget) : List (List Char) → Nat
  | [] => 0
  | line :: rest => b.estimate (String.ofList line) + cost b rest

/-- The longest beginning of some lines that takes at most so many tokens, if there is one. -/
structure IsLongest (b : Budget) (tokens : Int) (lines kept : List (List Char)) : Prop where
  isPrefix : kept <+: lines
  cost_le : 0 ≤ tokens → (b.cost kept : Int) ≤ tokens
  eq_nil : tokens < 0 → kept = []
  longest : ∀ other, other <+: lines → (b.cost other : Int) ≤ tokens → other <+: kept

theorem IsLongest.eq_nil_or_cost_le {b : Budget} {tokens : Int} {lines kept : List (List Char)}
    (h : IsLongest b tokens lines kept) : kept = [] ∨ (b.cost kept : Int) ≤ tokens := by
  rcases Int.lt_or_le tokens 0 with hneg | hpos
  · exact .inl (h.eq_nil hneg)
  · exact .inr (h.cost_le hpos)

/-- What is kept is the longest beginning, and lines are cut off exactly if it is not everything. -/
theorem affordable_isLongest (b : Budget) (tokens : Int) (lines : List (List Char)) :
    IsLongest b tokens lines (b.affordable tokens lines).1 ∧
      ((b.affordable tokens lines).2 = true ↔ (b.affordable tokens lines).1 ≠ lines) := by
  induction lines generalizing tokens with
  | nil =>
    refine ⟨⟨List.prefix_refl _, fun h => h, fun _ => rfl, fun _ hother _ => hother⟩, ?_⟩
    exact iff_of_false Bool.false_ne_true fun hne => hne rfl
  | cons line rest ih =>
    by_cases hover : tokens < (b.estimate (String.ofList line) : Int)
    · rw [affordable, if_pos hover]
      refine ⟨⟨List.nil_prefix, fun h => h, fun _ => rfl, fun other hother hcost => ?_⟩, ?_⟩
      · cases other with
        | nil => exact List.prefix_refl _
        | cons first more =>
          obtain ⟨rfl, -⟩ := List.cons_prefix_cons.1 hother
          rw [cost] at hcost
          omega
      · exact iff_of_true rfl (List.cons_ne_nil line rest).symm
    · have hle := Int.not_lt.1 hover
      obtain ⟨hlongest, hcut⟩ := ih (tokens - b.estimate (String.ofList line))
      rw [affordable, if_neg hover]
      refine ⟨⟨?_, fun _ => ?_, fun hneg => ?_, fun other hother hcost => ?_⟩, ?_⟩
      · exact List.cons_prefix_cons.2 ⟨rfl, hlongest.isPrefix⟩
      · have hrest := hlongest.cost_le (by omega)
        rw [cost]
        omega
      · omega
      · cases other with
        | nil => exact List.nil_prefix
        | cons first more =>
          obtain ⟨rfl, hmore⟩ := List.cons_prefix_cons.1 hother
          rw [cost] at hcost
          exact List.cons_prefix_cons.2 ⟨rfl, hlongest.longest more hmore (by omega)⟩
      · exact hcut.trans (not_congr (List.cons_inj_right line).symm)

/-- Lines that can be afforded are kept, and those behind them as far as what is left goes. -/
theorem affordable_append (b : Budget) {tokens : Int} {kept : List (List Char)}
    (h : kept = [] ∨ (b.cost kept : Int) ≤ tokens) (rest : List (List Char)) :
    b.affordable tokens (kept ++ rest) =
      (kept ++ (b.affordable (tokens - b.cost kept) rest).1,
        (b.affordable (tokens - b.cost kept) rest).2) := by
  induction kept generalizing tokens with
  | nil => simp [cost]
  | cons line kept ih =>
    have hcost := h.resolve_left (List.cons_ne_nil line kept)
    rw [cost] at hcost
    have hfits : ¬tokens < (b.estimate (String.ofList line) : Int) := by omega
    have hleft : tokens - b.estimate (String.ofList line) - b.cost kept =
        tokens - b.cost (line :: kept) := by
      rw [cost]
      omega
    rw [List.cons_append, affordable, if_neg hfits, ih (.inr (by omega)), hleft, List.cons_append]

/-! ### Comments -/

theorem shrinkComments_nil : shrinkComments [] = [] := by rw [shrinkComments]

theorem shrinkComments_closed {s rest : List Char} (h : behindComment? s = some rest) :
    shrinkComments ('/' :: '*' :: s) = commentStub ++ shrinkComments rest := by
  rw [shrinkComments]
  split
  · rename_i rest' hrest
    obtain rfl := Option.some.inj (h.symm.trans hrest)
    rfl
  · rename_i hnone
    exact absurd (h.symm.trans hnone) (Option.some_ne_none rest)

theorem shrinkComments_open {s : List Char} (h : behindComment? s = none) :
    shrinkComments ('/' :: '*' :: s) = '/' :: shrinkComments ('*' :: s) := by
  rw [shrinkComments]
  split
  · rename_i rest hrest
    exact absurd (hrest.symm.trans h) (Option.some_ne_none rest)
  · rfl

theorem shrinkComments_cons {c : Char} {s : List Char} (h : c = '/' → s.head? ≠ some '*') :
    shrinkComments (c :: s) = c :: shrinkComments s := by
  rw [shrinkComments]
  rintro t rfl rfl
  exact h rfl rfl

/-- A comment that has been shrunk stays as it is. -/
theorem shrinkComments_stub (s : List Char) :
    shrinkComments (commentStub ++ s) = commentStub ++ shrinkComments s :=
  shrinkComments_closed (s := " ... */".toList ++ s) rfl

theorem behindComment?_of_cons {c : Char} {s : List Char} (h : behindComment? (c :: s) = none) :
    behindComment? s = none := by
  unfold behindComment? at h
  split at h
  · exact absurd h (Option.some_ne_none _)
  · rename_i heq
    rwa [(List.cons.inj heq).2]
  · rename_i heq
    exact absurd heq (List.cons_ne_nil c s)

/-- Where no comment ends there is nothing to shrink. -/
theorem shrinkComments_of_open {s : List Char} (h : behindComment? s = none) :
    shrinkComments s = s := by
  fun_induction shrinkComments s with
  | case1 s rest hrest _ =>
    have hnone := behindComment?_of_cons (behindComment?_of_cons h)
    exact absurd (hrest.symm.trans hnone) (Option.some_ne_none rest)
  | case2 s _ ih => rw [ih (behindComment?_of_cons h)]
  | case3 c s _ ih => rw [ih (behindComment?_of_cons h)]
  | case4 => rfl

theorem head?_shrinkComments (s : List Char) : (shrinkComments s).head? = s.head? := by
  fun_cases shrinkComments s <;> rfl

/-- Shrinking comments leaves none to shrink: a stub is no longer comment, and no comment starts
where two pieces meet. -/
theorem shrinkComments_shrinkComments (s : List Char) :
    shrinkComments (shrinkComments s) = shrinkComments s := by
  fun_induction shrinkComments s with
  | case1 s rest _ ih => rw [shrinkComments_stub, ih]
  | case2 s hopen _ =>
    have hstar : shrinkComments ('*' :: s) = '*' :: s := by
      rw [shrinkComments_cons fun h => absurd h (by decide), shrinkComments_of_open hopen]
    rw [hstar, shrinkComments_open hopen, hstar]
  | case3 c s hstart ih =>
    refine (shrinkComments_cons fun hc hhead => ?_).trans (congrArg (List.cons c) ih)
    rw [head?_shrinkComments] at hhead
    obtain ⟨t, rfl⟩ := List.head?_eq_some_iff.1 hhead
    exact hstart t hc rfl
  | case4 => exact shrinkComments_nil

theorem shrinkLine_plus (s : List Char) : shrinkLine ('+' :: s) = '+' :: shrinkComments s :=
  shrinkComments_cons fun h => absurd h (by decide)

theorem shrinkLine_of_ne {c : Char} (h : c ≠ '+') (s : List Char) :
    shrinkLine (c :: s) = c :: s := by
  unfold shrinkLine
  split
  · rename_i heq
    exact absurd (List.cons.inj heq).1 h
  · rfl

/-! ### Lines of a compressed text -/

/-- A line that compression leaves as it is. -/
structure IsCompressed (line : List Char) : Prop where
  newline_notMem : '\n' ∉ line
  return_notMem : '\r' ∉ line
  not_blank : allBlank line = false
  shrinkLine_eq : shrinkLine line = line

theorem isCompressed_marker : IsCompressed compressionMarker :=
  ⟨by decide, by decide, by decide, rfl⟩

theorem isCompressed_shrinkLine {line : List Char} (hn : '\n' ∉ line) (hr : '\r' ∉ line)
    (hblank : allBlank line = false) : IsCompressed (shrinkLine line) := by
  refine ⟨fun hm => ?_, fun hm => ?_, ?_, ?_⟩
  · exact (mem_shrinkLine hm).elim hn fun hstub => absurd hstub (by decide)
  · exact (mem_shrinkLine hm).elim hr fun hstub => absurd hstub (by decide)
  · cases line with
    | nil => exact hblank
    | cons c s =>
      by_cases hc : c = '+'
      · rw [hc, shrinkLine_plus]
        rfl
      · rwa [shrinkLine_of_ne hc]
  · cases line with
    | nil => rfl
    | cons c s =>
      by_cases hc : c = '+'
      · rw [hc, shrinkLine_plus, shrinkLine_plus, shrinkComments_shrinkComments]
      · rw [shrinkLine_of_ne hc, shrinkLine_of_ne hc]

theorem isCompressed_of_mem {text : String} (hr : '\r' ∉ text.toList) {line : List Char}
    (h : line ∈ compressibleLines text) : IsCompressed line := by
  obtain ⟨whole, hwhole, rfl⟩ := List.mem_map.1 h
  have ⟨hmem, hblank⟩ := List.mem_filter.1 hwhole
  exact isCompressed_shrinkLine (newline_notMem_of_mem_splitLines hmem)
    (fun hm => hr (mem_of_mem_splitLines hmem _ hm)) (Bool.not_eq_true' _ ▸ hblank)

/-- A text that is joined from such lines has them. -/
theorem compressibleLines_joinLines {lines : List (List Char)}
    (h : ∀ line ∈ lines, IsCompressed line) :
    compressibleLines (String.ofList (joinLines lines)) = lines := by
  rcases eq_or_ne lines [] with rfl | hne
  · rfl
  · have hreturn : '\r' ∉ joinLines lines := by
      intro hm
      rcases mem_joinLines hm with hm | ⟨line, hl, hm⟩
      · exact absurd hm (by decide)
      · exact (h line hl).return_notMem hm
    have hfilter : lines.filter (!allBlank ·) = lines :=
      List.filter_eq_self.2 fun line hl => by rw [(h line hl).not_blank, Bool.not_false]
    have hshrunk : lines.map shrinkLine = lines.map fun line => line :=
      List.map_congr_left fun line hl => (h line hl).shrinkLine_eq
    rw [compressibleLines, String.toList_ofList, splitLines_eq_splitNewlines _ hreturn,
      splitNewlines_joinLines hne fun line hl => (h line hl).newline_notMem, hfilter, hshrunk,
      List.map_id']

/-! ### Compressed texts -/

/-- The lines that are kept, and behind them a marker for the others if there are any. -/
def marked (lines kept : List (List Char)) : List (List Char) :=
  kept ++ if kept = lines then [] else [compressionMarker]

theorem compress_eq (b : Budget) (tokens : Int) (text : String) :
    b.compress tokens text = String.ofList (joinLines
      (marked (compressibleLines text) (b.affordable tokens (compressibleLines text)).1)) := by
  have hcut := (affordable_isLongest b tokens (compressibleLines text)).2
  rw [compress, marked]
  by_cases hall : (b.affordable tokens (compressibleLines text)).1 = compressibleLines text
  · simp [hcut, hall]
  · simp [hcut, hall]

section
variable {b : Budget} {tokens : Int} {text : String} {kept : List (List Char)}

theorem isCompressed_of_mem_marked (hr : '\r' ∉ text.toList)
    (hkept : kept <+: compressibleLines text) {line : List Char}
    (h : line ∈ marked (compressibleLines text) kept) : IsCompressed line := by
  rcases List.mem_append.1 h with h | h
  · exact isCompressed_of_mem hr (hkept.subset h)
  · split at h
    · exact absurd h List.not_mem_nil
    · exact List.mem_singleton.1 h ▸ isCompressed_marker

/-- The marker is not kept the second time, and put there again, or it is: either way it stands
behind the same lines. -/
theorem marked_affordable {lines : List (List Char)} (h : IsLongest b tokens lines kept) :
    marked (marked lines kept) (b.affordable tokens (marked lines kept)).1 = marked lines kept := by
  have haffordable := b.affordable_append h.eq_nil_or_cost_le
  by_cases hall : kept = lines
  · have hmarked : marked lines kept = kept ++ [] := by rw [marked, if_pos hall]
    rw [hmarked, haffordable, affordable, marked, if_pos rfl, List.append_nil, List.append_nil]
  · have hmarked : marked lines kept = kept ++ [compressionMarker] := by rw [marked, if_neg hall]
    rw [hmarked, haffordable, affordable, marked]
    by_cases hover : tokens - b.cost kept < (b.estimate (String.ofList compressionMarker) : Int)
    · simp [hover]
    · simp [hover, affordable]

/-- A compressed text has the lines that were kept, and the marker. -/
theorem compressibleLines_compress (hr : '\r' ∉ text.toList) :
    compressibleLines (b.compress tokens text) =
      marked (compressibleLines text) (b.affordable tokens (compressibleLines text)).1 := by
  have hprefix := (b.affordable_isLongest tokens (compressibleLines text)).1.isPrefix
  rw [compress_eq]
  exact compressibleLines_joinLines fun line => isCompressed_of_mem_marked hr hprefix

/-- What is compressed is not changed by compressing it again. -/
theorem compress_compress (b : Budget) (tokens : Int) (hr : '\r' ∉ text.toList) :
    b.compress tokens (b.compress tokens text) = b.compress tokens text := by
  have hlongest := (b.affordable_isLongest tokens (compressibleLines text)).1
  rw [compress_eq, compressibleLines_compress hr, marked_affordable hlongest, ← compress_eq]

/-! ### Texts with an estimate -/

variable [StandIns]

/-- The lines that are estimated: those that are kept, and the first one that is not. -/
def estimatedLines (text : String) (kept : List (List Char)) : List (List Char) :=
  (compressibleLines text).take (kept.length + 1)

theorem compressFault?_eq_none_iff (b : Budget) (tokens : Int) (text : String) :
    b.compressFault? tokens text = none ↔
      ∀ line ∈ estimatedLines text (b.affordable tokens (compressibleLines text)).1,
        IsWhole line := by
  rw [compressFault?, List.findSome?_eq_none_iff]
  refine forall₂_congr fun line _ => ?_
  rw [estimateFault?_eq_none_iff, String.toList_ofList]

theorem cause_of_compressFault? {e : Failure} (h : b.compressFault? tokens text = some e) :
    ∃ cause, e = .notEncodable cause := by
  obtain ⟨line, -, hline⟩ := List.exists_of_findSome?_eq_some h
  obtain ⟨cause, -, rfl⟩ := Option.map_eq_some_iff.1 hline
  exact ⟨cause, rfl⟩

/-- If the lines that are estimated have an estimate, so have the lines of what they come to. -/
theorem compressFault?_compress (hr : '\r' ∉ text.toList)
    (h : b.compressFault? tokens text = none) :
    b.compressFault? tokens (b.compress tokens text) = none := by
  have hprefix := (b.affordable_isLongest tokens (compressibleLines text)).1.isPrefix
  have hwhole := (b.compressFault?_eq_none_iff tokens text).1 h
  rw [compressFault?_eq_none_iff, estimatedLines, compressibleLines_compress hr]
  intro line hl
  rcases List.mem_append.1 (List.mem_of_mem_take hl) with hkept | hmarker
  · refine hwhole line ?_
    rw [List.prefix_iff_eq_take.1 hprefix] at hkept
    exact (List.take_prefix_take_left (Nat.le_succ _)).subset hkept
  · split at hmarker
    · exact absurd hmarker List.not_mem_nil
    · rw [List.mem_singleton.1 hmarker]
      exact isWhole_of_isAssigned (by decide)

theorem compression_eq_ok_iff {t : String} : b.compression tokens text = .ok t ↔
    b.compressFault? tokens text = none ∧ b.compress tokens text = t := by
  rw [compression]
  cases b.compressFault? tokens text <;> simp

theorem compression_eq_error_iff {e : Failure} :
    b.compression tokens text = .error e ↔ b.compressFault? tokens text = some e := by
  rw [compression]
  cases b.compressFault? tokens text <;> simp

/-- **Compression.** Compression keeps the longest beginning of the lines that takes at most the
tokens that are left, and puts a marker behind it exactly if that is not everything; compressing the
result again changes nothing. It fails exactly if one of the lines that it estimates cannot be
written, so never on a text that can. -/
theorem compression_keeps_longest (b : Budget) (tokens : Int) (text : String) :
    ∃ kept, IsLongest b tokens (compressibleLines text) kept ∧
      (∀ t, b.compression tokens text = .ok t →
        t = String.ofList (joinLines (marked (compressibleLines text) kept)) ∧
          ('\r' ∉ text.toList → b.compression tokens t = .ok t)) ∧
      (∀ e, b.compression tokens text = .error e → ∃ cause, e = .notEncodable cause) ∧
      ((∃ t, b.compression tokens text = .ok t) ↔
        ∀ line ∈ estimatedLines text kept, IsWhole line) ∧
      (IsWhole text.toList → ∃ t, b.compression tokens text = .ok t) := by
  have hlongest := (b.affordable_isLongest tokens (compressibleLines text)).1
  have hok : (∃ t, b.compression tokens text = .ok t) ↔
      ∀ line ∈ estimatedLines text (b.affordable tokens (compressibleLines text)).1,
        IsWhole line := by
    rw [← compressFault?_eq_none_iff]
    constructor
    · rintro ⟨t, ht⟩
      exact (compression_eq_ok_iff.1 ht).1
    · exact fun hnone => ⟨_, compression_eq_ok_iff.2 ⟨hnone, rfl⟩⟩
  refine ⟨_, hlongest, fun t ht => ?_, fun e he => ?_, hok, fun hwhole => hok.2 fun line hl => ?_⟩
  · obtain ⟨hnone, rfl⟩ := compression_eq_ok_iff.1 ht
    exact ⟨b.compress_eq tokens text, fun hr =>
      compression_eq_ok_iff.2 ⟨compressFault?_compress hr hnone, b.compress_compress tokens hr⟩⟩
  · exact cause_of_compressFault? (compression_eq_error_iff.1 he)
  · refine hwhole.of_mem fun c hc => ?_
    refine (mem_compressibleLines (List.mem_of_mem_take hl) c hc).imp_right ?_
    exact lt_of_isAssigned (by decide)

end

/-- One of two lines is kept, with its comment shrunk. -/
theorem compression_keeps_longest_first :
    letI : StandIns := ⟨.besides []⟩
    let b : Budget := ⟨8000, 2000, "trim", "mock"⟩
    let text := "+x /* note */ = 1\n\n+y\n"
    IsWhole text.toList ∧ '\r' ∉ text.toList ∧ ∃ t, b.compression 5 text = .ok t ∧
      t = "+x /* ... */ = 1\n... [content truncated for token budget] ..." ∧
        b.compression 5 t = .ok t := by
  let _ : StandIns := ⟨.besides []⟩
  intro b text
  have hwhole : IsWhole text.toList := isWhole_of_isAssigned (by decide)
  have hr : '\r' ∉ text.toList := by decide
  obtain ⟨kept, -, hkeeps, -, -, hok⟩ := b.compression_keeps_longest 5 text
  obtain ⟨t, ht⟩ := hok hwhole
  refine ⟨hwhole, hr, t, ht, ?_, (hkeeps t ht).2 hr⟩
  obtain rfl := (compression_eq_ok_iff.1 ht).2
  decide +kernel

section
variable [StandIns] {c : Char} {half : Nat}

theorem isCompressed_of_half? (h : Surrogate.half? c = some half) : IsCompressed [c] := by
  have hblank := isBlank_of_half? h
  have hne (d : Char) (hd : isBlank d = true) : d ∉ [c] := by
    intro hm
    rw [← List.mem_singleton.1 hm, hd] at hblank
    exact absurd hblank (by decide)
  refine ⟨hne '\n' (by decide), hne '\r' (by decide), ?_, ?_⟩
  · rw [allBlank, List.all_cons, hblank, Bool.false_and]
  · refine shrinkLine_of_ne ?_ []
    rintro rfl
    rw [half?_of_lt (by decide)] at h
    exact absurd h (Option.some_ne_none half).symm

theorem not_compression_of_half? (h : Surrogate.half? c = some half) (b : Budget) (tokens : Int) :
    ¬∃ t, b.compression tokens (String.ofList [c]) = .ok t := by
  have hline : ∀ line ∈ [[c]], IsCompressed line := fun line hl =>
    List.mem_singleton.1 hl ▸ isCompressed_of_half? h
  have hlines := compressibleLines_joinLines hline
  rw [joinLines] at hlines
  rintro ⟨t, ht⟩
  have hwhole := (b.compressFault?_eq_none_iff _ _).1 (compression_eq_ok_iff.1 ht).1
  rw [estimatedLines, hlines, List.take_succ_cons] at hwhole
  have hnone := hwhole [c] List.mem_cons_self c (List.mem_singleton_self c)
  exact absurd (h.symm.trans hnone) (Option.some_ne_none half)

end

/-- Half of a surrogate pair cannot even be left out. -/
theorem compression_half :
    letI : StandIns := ⟨.besides []⟩
    let b : Budget := ⟨8000, 2000, "trim", "mock"⟩
    ¬∃ t, b.compression (-1) (String.ofList [Surrogate.standIn 0xD800]) = .ok t := by
  let _ : StandIns := ⟨.besides []⟩
  exact not_compression_of_half? (Surrogate.half?_standIn (by decide)) _ _

end PatchReview.Budget
