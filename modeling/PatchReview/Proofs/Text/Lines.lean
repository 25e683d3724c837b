import PatchReview.Text.Blank
import PatchReview.Text.Lines

/-! Splitting a text that is made of lines.

A line holds no newline and does not end in a carriage return (`IsLine`): closed by newlines, such
lines are what a text splits into (`splitLines_closed`). A text without carriage returns splits
into lines of this kind, and cutting and joining undo each other (`splitNewlines_joinLines`). Once
every way to end a line is a newline, nothing is left to do (`universalNewlines_universalNewlines`). -/
namespace PatchReview.Text

/-- A text that can stand between two line breaks. -/
structure IsLine (s : List Char) : Prop where
  newline_notMem : '\n' ∉ s
  getLast?_ne : s.getLast? ≠ some '\r'

theorem isLine_nil : IsLine [] := ⟨List.not_mem_nil, by simp⟩

theorem IsLine.cons {s : List Char} (h : IsLine s) {c : Char} (hn : c ≠ '\n') (hr : c ≠ '\r') :
    IsLine (c :: s) := by
  refine ⟨?_, ?_⟩
  · rw [List.mem_cons, not_or]
    exact ⟨Ne.symm hn, h.1⟩
  · cases s with
    | nil => simpa using hr
    | cons d s => rw [List.getLast?_cons_cons]; exact h.2

theorem IsLine.append {s t : List Char} (hs : '\n' ∉ s) (ht : IsLine t) (hne : t ≠ []) :
    IsLine (s ++ t) := by
  refine ⟨?_, ?_⟩
  · rw [List.mem_append, not_or]
    exact ⟨hs, ht.1⟩
  · rw [List.getLast?_append, List.getLast?_eq_some_getLast hne, Option.some_or,
      ← List.getLast?_eq_some_getLast hne]
    exact ht.2

/-! ### Lines that are closed by newlines -/

/-- The lines, each closed by a newline. -/
def closedLines (lines : List (List Char)) : List Char := lines.flatMap (· ++ ['\n'])

theorem splitLines_append_newline {line : List Char} (h : IsLine line) (s : List Char) :
    splitLines (line ++ '\n' :: s) = line :: splitLines s := by
  induction line with
  | nil => rfl
  | cons c line ih =>
    obtain ⟨hn, hr⟩ := h
    rw [List.mem_cons, not_or] at hn
    cases line with
    | nil =>
      have hc : c ≠ '\r' := by simpa using hr
      rw [List.cons_append, List.nil_append, splitLines, splitLines]
      · exact Ne.symm hn.1
      · exact fun _ e => absurd e hc
    | cons d line =>
      rw [List.getLast?_cons_cons] at hr
      rw [List.cons_append, splitLines, ih ⟨hn.2, hr⟩]
      · exact Ne.symm hn.1
      · intro _ _ e
        rw [List.cons_append, List.cons.injEq] at e
        exact hn.2 (e.1 ▸ List.mem_cons_self)

theorem splitLines_closed {lines : List (List Char)} (h : ∀ line ∈ lines, IsLine line) :
    splitLines (closedLines lines) = lines ++ [[]] := by
  induction lines with
  | nil => rfl
  | cons line lines ih =>
    have hs : closedLines (line :: lines) = line ++ '\n' :: closedLines lines := by
      simp [closedLines]
    rw [hs, splitLines_append_newline (h line List.mem_cons_self),
      ih fun l hl => h l (List.mem_cons_of_mem _ hl), List.cons_append]

/-- No line holds a character that the text does not. -/
theorem mem_of_mem_splitLines {s line : List Char} (h : line ∈ splitLines s) :
    ∀ c ∈ line, c ∈ s := by
  fun_induction splitLines s generalizing line with
  | case1 =>
    obtain rfl := List.mem_singleton.1 h
    exact fun _ hc => absurd hc List.not_mem_nil
  | case2 s ih =>
    rcases List.mem_cons.1 h with rfl | h
    · exact fun _ hc => absurd hc List.not_mem_nil
    · exact fun c hc => List.mem_cons_of_mem _ (ih h c hc)
  | case3 s ih =>
    rcases List.mem_cons.1 h with rfl | h
    · exact fun _ hc => absurd hc List.not_mem_nil
    · exact fun c hc => List.mem_cons_of_mem _ (List.mem_cons_of_mem _ (ih h c hc))
  | case4 d s _ _ hs => exact absurd hs (splitLines_ne_nil s)
  | case5 d s _ _ first rest hs ih =>
    rcases List.mem_cons.1 h with rfl | h
    · intro c hc
      rcases List.mem_cons.1 hc with rfl | hc
      · exact List.mem_cons_self
      · exact List.mem_cons_of_mem _ (ih (hs ▸ List.mem_cons_self) c hc)
    · exact fun c hc => List.mem_cons_of_mem _ (ih (hs ▸ List.mem_cons_of_mem _ h) c hc)

theorem newline_notMem_of_mem_splitLines {s line : List Char} (h : line ∈ splitLines s) :
    '\n' ∉ line := by
  fun_induction splitLines s generalizing line with
  | case1 =>
    rw [List.mem_singleton.1 h]
    exact List.not_mem_nil
  | case2 s ih =>
    rcases List.mem_cons.1 h with rfl | h
    · exact List.not_mem_nil
    · exact ih h
  | case3 s ih =>
    rcases List.mem_cons.1 h with rfl | h
    · exact List.not_mem_nil
    · exact ih h
  | case4 d s _ _ hs => exact absurd hs (splitLines_ne_nil s)
  | case5 d s hd _ first rest hs ih =>
    rcases List.mem_cons.1 h with rfl | h
    · have hfirst := ih (hs ▸ List.mem_cons_self)
      rw [List.mem_cons, not_or]
      exact ⟨fun e => hd e.symm, hfirst⟩
    · exact ih (hs ▸ List.mem_cons_of_mem _ h)

/-- All lines but the last ones are closed by newlines. -/
theorem joinLines_append (kept : List (List Char)) {rest : List (List Char)} (h : rest ≠ []) :
    joinLines (kept ++ rest) = closedLines kept ++ joinLines rest := by
  induction kept with
  | nil => rfl
  | cons line kept ih =>
    have hne : kept ++ rest ≠ [] := List.append_ne_nil_of_right_ne_nil kept h
    rw [List.cons_append, joinLines_cons line hne, ih]
    simp [closedLines]

/-- One line behind others that are joined. -/
theorem joinLines_concat {lines : List (List Char)} (h : lines ≠ []) (line : List Char) :
    joinLines (lines ++ [line]) = joinLines lines ++ '\n' :: line := by
  induction lines with
  | nil => exact absurd rfl h
  | cons first rest ih =>
    cases rest with
    | nil => rfl
    | cons second rest =>
      rw [List.cons_append, joinLines_cons first (by simp), ih (List.cons_ne_nil second rest),
        joinLines_cons first (List.cons_ne_nil second rest), List.append_assoc, List.cons_append]

/-! ### Cutting at newlines -/

theorem splitNewlines_append_newline {line : List Char} (h : '\n' ∉ line) (s : List Char) :
    splitNewlines (line ++ '\n' :: s) = line :: splitNewlines s := by
  induction line with
  | nil => rfl
  | cons c line ih =>
    rw [List.mem_cons, not_or] at h
    rw [List.cons_append, splitNewlines, ih h.2]
    exact Ne.symm h.1

theorem splitNewlines_of_notMem {line : List Char} (h : '\n' ∉ line) :
    splitNewlines line = [line] := by
  induction line with
  | nil => rfl
  | cons c line ih =>
    rw [List.mem_cons, not_or] at h
    rw [splitNewlines, ih h.2]
    exact Ne.symm h.1

theorem splitNewlines_joinLines {lines : List (List Char)} (hne : lines ≠ [])
    (h : ∀ line ∈ lines, '\n' ∉ line) : splitNewlines (joinLines lines) = lines := by
  induction lines with
  | nil => exact absurd rfl hne
  | cons line lines ih =>
    have hl := h line List.mem_cons_self
    cases lines with
    | nil => exact splitNewlines_of_notMem hl
    | cons next rest =>
      rw [joinLines_cons line (List.cons_ne_nil next rest), splitNewlines_append_newline hl,
        ih (List.cons_ne_nil next rest) fun l hl => h l (List.mem_cons_of_mem _ hl)]

/-- The beginning of lines that are joined is the first lines and the beginning of the next one. -/
theorem splitNewlines_of_isPrefix {lines : List (List Char)} (hne : lines ≠ [])
    (h : ∀ line ∈ lines, '\n' ∉ line) {s : List Char} (hs : s <+: joinLines lines) :
    ∃ n whole last, lines[n]? = some whole ∧ last <+: whole ∧
      splitNewlines s = lines.take n ++ [last] := by
  induction lines generalizing s with
  | nil => exact absurd rfl hne
  | cons line lines ih =>
    have hl := h line List.mem_cons_self
    by_cases hshort : s <+: line
    · have hnewline : '\n' ∉ s := fun hc => hl (hshort.subset hc)
      exact ⟨0, line, s, rfl, hshort, splitNewlines_of_notMem hnewline⟩
    · cases lines with
      | nil => exact absurd hs hshort
      | cons next rest =>
        rw [joinLines_cons line (List.cons_ne_nil next rest)] at hs
        obtain ⟨t, rfl⟩ : line <+: s :=
          (List.prefix_or_prefix_of_prefix hs (List.prefix_append _ _)).resolve_left hshort
        have ht := (List.prefix_append_right_inj line).1 hs
        cases t with
        | nil => exact absurd (by simp) hshort
        | cons c t =>
          obtain ⟨rfl, hrest⟩ := List.cons_prefix_cons.1 ht
          obtain ⟨n, whole, last, hwhole, hlast, hsplit⟩ := ih (List.cons_ne_nil next rest)
            (fun l hm => h l (List.mem_cons_of_mem _ hm)) hrest
          refine ⟨n + 1, whole, last, hwhole, hlast, ?_⟩
          rw [splitNewlines_append_newline hl, hsplit, List.take_succ_cons, List.cons_append]

/-- A character that is no newline belongs to the first line. -/
theorem exists_splitNewlines_cons {c : Char} (hc : c ≠ '\n') (s : List Char) :
    ∃ first rest, splitNewlines s = first :: rest ∧
      splitNewlines (c :: s) = (c :: first) :: rest := by
  cases hs : splitNewlines s with
  | nil => exact absurd hs (splitNewlines_ne_nil s)
  | cons first rest =>
    refine ⟨first, rest, rfl, ?_⟩
    rw [splitNewlines, hs]
    exact hc

/-- Both ways to cut a text leave the same lines, but for the blanks behind them. -/
theorem map_trimEnd_splitLines (s : List Char) :
    (splitLines s).map trimEnd = (splitNewlines s).map trimEnd := by
  fun_induction splitLines s with
  | case1 => rfl
  | case2 s ih => rw [List.map_cons, ih]; rfl
  | case3 s ih =>
    have hreturn : trimEnd ['\r'] = [] := rfl
    have hsplit : splitNewlines ('\r' :: '\n' :: s) = ['\r'] :: splitNewlines s := rfl
    rw [hsplit, List.map_cons, List.map_cons, ih, hreturn]
    rfl
  | case4 c s _ _ hs => exact absurd hs (splitLines_ne_nil s)
  | case5 c s hc _ line rest hs ih =>
    obtain ⟨first, more, hfirst, hcons⟩ := exists_splitNewlines_cons (fun e => hc e) s
    rw [hs, hfirst, List.map_cons, List.map_cons, List.cons.injEq] at ih
    rw [hcons, List.map_cons, List.map_cons, ih.2, trimEnd_cons, trimEnd_cons, ih.1]

/-- No line holds a newline or a character that the text does not. -/
theorem mem_of_mem_splitNewlines {s line : List Char} (h : line ∈ splitNewlines s) :
    '\n' ∉ line ∧ ∀ c ∈ line, c ∈ s := by
  induction s generalizing line with
  | nil =>
    obtain rfl := List.mem_singleton.1 h
    exact ⟨List.not_mem_nil, fun _ hc => absurd hc List.not_mem_nil⟩
  | cons d s ih =>
    by_cases hd : d = '\n'
    · subst hd
      rcases List.mem_cons.1 h with rfl | h
      · exact ⟨List.not_mem_nil, fun _ hc => absurd hc List.not_mem_nil⟩
      · exact ⟨(ih h).1, fun c hc => List.mem_cons_of_mem _ ((ih h).2 c hc)⟩
    · obtain ⟨first, rest, hs, hcons⟩ := exists_splitNewlines_cons hd s
      rw [hcons] at h
      rcases List.mem_cons.1 h with rfl | h
      · have hf := ih (hs ▸ List.mem_cons_self)
        refine ⟨?_, fun c hc => ?_⟩
        · rw [List.mem_cons, not_or]
          exact ⟨Ne.symm hd, hf.1⟩
        · rcases List.mem_cons.1 hc with rfl | hc
          · exact List.mem_cons_self
          · exact List.mem_cons_of_mem _ (hf.2 c hc)
      · have hr := ih (hs ▸ List.mem_cons_of_mem _ h)
        exact ⟨hr.1, fun c hc => List.mem_cons_of_mem _ (hr.2 c hc)⟩

theorem mem_joinLines {lines : List (List Char)} {c : Char} (h : c ∈ joinLines lines) :
    c = '\n' ∨ ∃ line ∈ lines, c ∈ line := by
  induction lines with
  | nil => exact absurd h List.not_mem_nil
  | cons line lines ih =>
    cases lines with
    | nil => exact .inr ⟨line, List.mem_cons_self, h⟩
    | cons next rest =>
      rw [joinLines_cons line (List.cons_ne_nil next rest), List.mem_append, List.mem_cons] at h
      rcases h with h | rfl | h
      · exact .inr ⟨line, List.mem_cons_self, h⟩
      · exact .inl rfl
      · rcases ih h with h | ⟨l, hl, hc⟩
        · exact .inl h
        · exact .inr ⟨l, List.mem_cons_of_mem _ hl, hc⟩

/-! ### Every way to end a line -/

theorem return_notMem_universalNewlines (s : List Char) : '\r' ∉ universalNewlines s := by
  fun_induction universalNewlines s with
  | case1 => exact List.not_mem_nil
  | case2 s ih => exact List.not_mem_cons_of_ne_of_not_mem (by decide) ih
  | case3 s _ ih => exact List.not_mem_cons_of_ne_of_not_mem (by decide) ih
  | case4 c s _ hc ih => exact List.not_mem_cons_of_ne_of_not_mem (fun e => hc e.symm) ih

theorem universalNewlines_of_notMem {s : List Char} (h : '\r' ∉ s) : universalNewlines s = s := by
  induction s with
  | nil => rfl
  | cons c s ih =>
    rw [List.mem_cons, not_or] at h
    rw [universalNewlines, ih h.2]
    · exact fun _ e => absurd e.symm h.1
    · exact fun e => absurd e.symm h.1

/-- Lines that end in newlines end in newlines. -/
theorem universalNewlines_universalNewlines (s : List Char) :
    universalNewlines (universalNewlines s) = universalNewlines s :=
  universalNewlines_of_notMem (return_notMem_universalNewlines s)

theorem mem_of_mem_universalNewlines {c : Char} {s : List Char} (h : c ∈ universalNewlines s) :
    c ∈ s ∨ c = '\n' := by
  fun_induction universalNewlines s with
  | case1 => exact .inl h
  | case2 s ih =>
    rcases List.mem_cons.1 h with rfl | h
    · exact .inr rfl
    · exact (ih h).imp_left fun hm => List.mem_cons_of_mem _ (List.mem_cons_of_mem _ hm)
  | case3 s _ ih =>
    rcases List.mem_cons.1 h with rfl | h
    · exact .inr rfl
    · exact (ih h).imp_left (List.mem_cons_of_mem _)
  | case4 d s _ _ ih =>
    rcases List.mem_cons.1 h with rfl | h
    · exact .inl List.mem_cons_self
    · exact (ih h).imp_left (List.mem_cons_of_mem _)

end PatchReview.Text
