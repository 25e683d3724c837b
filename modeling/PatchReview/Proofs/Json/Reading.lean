import Mathlib.Data.List.Chain
import Mathlib.Data.List.Infix
import Mathlib.Data.List.TakeWhile
import PatchReview.Json.Reader
import PatchReview.Proofs.Outcome
import PatchReview.Proofs.Text.Numeral

/-! What reading JSON comes to.

A reader takes the beginning of a text, which is what JSON looks like around line ends (`Unfenced`):
no mark of a code fence stands at a line end outside of quotes, and inside of quotes there is no
line end. What it makes of that can be written, since no integer with too many digits is taken. If
it fails, the text is not JSON, or it has a run of digits that is too long or more opening brackets
than may be nested (`Flaw`). -/
namespace PatchReview.Json

open Text

/-! ### What is taken -/

/-- Whether a character may stand before another: before a line end no backtick and no last letter
of the word behind one, behind a line end no backtick. -/
def MayPrecede (c d : Char) : Prop :=
  (d = '\n' → c ≠ '\x60' ∧ c ≠ 'n') ∧ (c = '\n' → d ≠ '\x60')

/-- A text that neither opens nor closes a fenced block, also where it meets others like it. -/
structure Unfenced (w : List Char) : Prop where
  chain : w.IsChain MayPrecede
  head : ∀ c ∈ w.head?, c ≠ '\x60'
  last : ∀ c ∈ w.getLast?, c ≠ '\x60' ∧ c ≠ 'n'

theorem Unfenced.nil : Unfenced [] :=
  ⟨.nil, fun _ h => absurd h (Option.not_mem_none _), fun _ h => absurd h (Option.not_mem_none _)⟩

theorem Unfenced.append {v w : List Char} (hv : Unfenced v) (hw : Unfenced w) :
    Unfenced (v ++ w) := by
  rcases eq_or_ne v [] with rfl | hvne
  · exact hw
  rcases eq_or_ne w [] with rfl | hwne
  · rwa [List.append_nil]
  refine ⟨List.isChain_append.2 ⟨hv.chain, hw.chain, ?_⟩, ?_, ?_⟩
  · exact fun c hc d hd => ⟨fun _ => hv.last c hc, fun _ => hw.head d hd⟩
  · rw [List.head?_append_of_ne_nil _ hvne]
    exact hv.head
  · rw [List.getLast?_append_of_ne_nil _ hwne]
    exact hw.last

/-- A text on one line. -/
theorem Unfenced.of_line {w : List Char} (hline : '\n' ∉ w) (hhead : ∀ c ∈ w.head?, c ≠ '\x60')
    (hlast : ∀ c ∈ w.getLast?, c ≠ '\x60' ∧ c ≠ 'n') : Unfenced w := by
  refine ⟨List.isChain_iff_forall_rel_of_append_cons_cons.2 ?_, hhead, hlast⟩
  rintro c d before after rfl
  constructor
  · rintro rfl
    exact absurd hline (by simp)
  · rintro rfl
    exact absurd hline (by simp)

/-- A text without line ends, backticks and the last letter of the word. -/
theorem Unfenced.of_forall {w : List Char} (h : ∀ c ∈ w, c ≠ '\n' ∧ c ≠ '\x60' ∧ c ≠ 'n') :
    Unfenced w := by
  refine .of_line (fun hm => (h _ hm).1 rfl) (fun c hc => ?_) fun c hc => ?_
  · exact (h c (List.mem_of_mem_head? hc)).2.1
  · exact (h c (List.mem_of_getLast? hc)).2

theorem Unfenced.singleton {c : Char} (hc : c ≠ '\n' ∧ c ≠ '\x60' ∧ c ≠ 'n') : Unfenced [c] := by
  refine .of_forall fun d hd => ?_
  rwa [List.mem_singleton.1 hd]

theorem Unfenced.cons {c : Char} (hc : c ≠ '\n' ∧ c ≠ '\x60' ∧ c ≠ 'n') {w : List Char}
    (hw : Unfenced w) : Unfenced (c :: w) := (Unfenced.singleton hc).append hw

/-- The space that may stand between tokens. -/
def isSpace (c : Char) : Bool := c == ' ' || c == '\t' || c == '\n' || c == '\r'

theorem Unfenced.of_space {w : List Char} (h : ∀ c ∈ w, isSpace c = true) : Unfenced w := by
  have hspace : ∀ c ∈ w, c ≠ '\x60' ∧ c ≠ 'n' := by
    intro c hc
    constructor
    · rintro rfl
      exact absurd (h _ hc) (by decide)
    · rintro rfl
      exact absurd (h _ hc) (by decide)
  refine ⟨List.isChain_iff_forall_rel_of_append_cons_cons.2 ?_, ?_, ?_⟩
  · rintro c d before after rfl
    exact ⟨fun _ => hspace c (by simp), fun _ => (hspace d (by simp)).1⟩
  · exact fun c hc => (hspace c (List.mem_of_mem_head? hc)).1
  · exact fun c hc => hspace c (List.mem_of_getLast? hc)

theorem exists_skipSpace (s : List Char) : ∃ w, s = w ++ skipSpace s ∧ Unfenced w := by
  refine ⟨s.takeWhile isSpace, List.takeWhile_append_dropWhile.symm, .of_space fun c hc => ?_⟩
  exact List.mem_takeWhile_imp hc

/-! ### What is wrong -/

/-- Whether a character opens a list or a table. -/
def opens (c : Char) : Bool := c == '[' || c == '\x7b'

/-- What reading fails with, and what the text has in it then. -/
inductive Flaw (depth : Nat) (s : List Char) : ReadError → Prop where
  | malformed : Flaw depth s .malformed
  | numeral {digits : List Char} (hpart : digits <:+: s) (hdigits : ∀ c ∈ digits, c.isDigit = true)
      (hlong : digitLimit < digits.length) : Flaw depth s (.numeral (.tooLong digits.length))
  | tooDeep {table : Bool} (hdeep : depth < s.countP opens) : Flaw depth s (.tooDeep table)

theorem Flaw.of_infix {depth : Nat} {s t : List Char} {e : ReadError} (h : Flaw depth t e)
    (hpart : t <:+: s) : Flaw depth s e := by
  cases h with
  | malformed => exact .malformed
  | numeral hdigits hall hlong => exact .numeral (hdigits.trans hpart) hall hlong
  | tooDeep hdeep => exact .tooDeep (Nat.lt_of_lt_of_le hdeep (hpart.sublist.countP_le))

theorem Flaw.of_append {depth : Nat} {w t : List Char} {e : ReadError} (h : Flaw depth t e) :
    Flaw depth (w ++ t) e := h.of_infix (List.suffix_append w t).isInfix

/-- Behind an opening bracket one level less is left. -/
theorem Flaw.inside {depth : Nat} {c : Char} (hc : opens c = true) {s : List Char} {e : ReadError}
    (h : Flaw depth s e) : Flaw (depth + 1) (c :: s) e := by
  cases h with
  | malformed => exact .malformed
  | numeral hpart hall hlong =>
    exact .numeral (hpart.trans (List.infix_cons List.infix_rfl)) hall hlong
  | tooDeep hdeep =>
    refine .tooDeep ?_
    rw [List.countP_cons_of_pos hc]
    exact Nat.succ_lt_succ hdeep

/-! ### Readers -/

/-- What reading a text may come to: something `good` and the rest, or a flaw. -/
inductive Reads {α : Type} (depth : Nat) (good : α → Prop) (s : List Char) : Reading α → Prop where
  | ok {w rest : List Char} {a : α} (htaken : s = w ++ rest) (hw : Unfenced w) (ha : good a) :
      Reads depth good s (.ok (a, rest))
  | error {e : ReadError} (h : Flaw depth s e) : Reads depth good s (.error e)

section
variable {α β : Type} {depth : Nat} {good : α → Prop} {s : List Char}

theorem Reads.malformed : Reads depth good s (.error .malformed) := .error .malformed

/-- What was read behind something is read from there on. -/
theorem Reads.behind {w : List Char} (hw : Unfenced w) {reading : Reading α}
    (h : Reads depth good s reading) : Reads depth good (w ++ s) reading := by
  cases h with
  | ok htaken hv ha =>
    refine .ok ?_ (hw.append hv) ha
    rw [htaken, List.append_assoc]
  | error h => exact .error h.of_append

theorem Reads.map {reading : Reading α} (h : Reads depth good s reading) (f : α → β)
    {good' : β → Prop} (hf : ∀ a, good a → good' (f a)) :
    Reads depth good' s (reading.map fun x => (f x.1, x.2)) := by
  cases h with
  | ok htaken hw ha => exact .ok htaken hw (hf _ ha)
  | error h => exact .error h

/-- One reader after another: the second goes on with what the first has left. -/
theorem Reads.bind {reading : Except ReadError (α × List Char)} (h : Reads depth good s reading)
    {good' : β → Prop} {next : α × List Char → Except ReadError (β × List Char)}
    (hnext : ∀ a rest, good a → Reads depth good' rest (next (a, rest))) :
    Reads depth good' s (reading >>= next : Except ReadError (β × List Char)) := by
  cases h with
  | ok htaken hw ha => exact htaken ▸ (hnext _ _ ha).behind hw
  | error h => exact .error h

/-- Nothing more is read. -/
theorem Reads.pure {a : α} (ha : good a) : Reads depth good s (.ok (a, s)) :=
  .ok (w := []) rfl .nil ha

theorem Reads.behindSpace {reading : Reading α} (h : Reads depth good (skipSpace s) reading) :
    Reads depth good s reading := by
  obtain ⟨w, hs, hw⟩ := exists_skipSpace s
  rw [hs]
  exact h.behind hw

/-- A mark in front is passed. -/
theorem Reads.mark {c : Char} (hc : c ≠ '\n' ∧ c ≠ '\x60' ∧ c ≠ 'n') {reading : Reading α}
    (h : Reads depth good s reading) : Reads depth good (c :: s) reading :=
  h.behind (Unfenced.singleton hc)

/-- Nothing is read behind a closing mark. -/
theorem Reads.close {c : Char} (hc : c ≠ '\n' ∧ c ≠ '\x60' ∧ c ≠ 'n') {a : α} (ha : good a) :
    Reads depth good (c :: s) (.ok (a, s)) := (Reads.pure ha).mark hc

/-- A reader behind an opening bracket has one level less. -/
theorem Reads.inside {c : Char} (hopens : opens c = true) {reading : Reading α}
    (h : Reads depth good s reading) : Reads (depth + 1) good (c :: s) reading := by
  have hc : c ≠ '\n' ∧ c ≠ '\x60' ∧ c ≠ 'n' := by
    refine ⟨?_, ?_, ?_⟩ <;> rintro rfl <;> exact absurd hopens (by decide)
  cases h with
  | ok htaken hw ha => exact .ok (congrArg (c :: ·) htaken) (hw.cons hc) ha
  | error h => exact .error (h.inside hopens)

end

/-! ### Texts -/

theorem ne_newline_of_isHexDigit {c : Char} (h : isHexDigit c = true) : c ≠ '\n' := by
  rintro rfl
  exact absurd h (by decide)

/-- What reading a text comes to, which stays on its line up to its closing quote. -/
def OnLine (s : List Char) (reading : Reading (List Nat)) : Prop :=
  reading = .error .malformed ∨ ∃ body units rest,
    reading = .ok (units, rest) ∧ s = body ++ '"' :: rest ∧ '\n' ∉ body

theorem OnLine.behind {s : List Char} {reading : Reading (List Nat)} (h : OnLine s reading)
    {w : List Char} (hw : ∀ c ∈ w, c ≠ '\n') (n : Nat) :
    OnLine (w ++ s) (reading.map fun (units, rest) => (n :: units, rest)) := by
  rcases h with rfl | ⟨body, units, rest, rfl, hs, hbody⟩
  · exact .inl rfl
  · refine .inr ⟨w ++ body, n :: units, rest, rfl, by rw [hs, List.append_assoc], fun hm => ?_⟩
    rcases List.mem_append.1 hm with hm | hm
    · exact hw _ hm rfl
    · exact hbody hm

theorem onLine_readUnits (s : List Char) : OnLine s (readUnits s) := by
  fun_induction readUnits s with
  | case1 => exact .inl rfl
  | case2 s => exact .inr ⟨[], [], s, rfl, rfl, List.not_mem_nil⟩
  | case3 => exact .inl rfl
  | case4 a b c d s n hn ih =>
    have hhex : ∀ x ∈ [a, b, c, d], x ≠ '\n' := by
      intro x hx
      unfold fourHex? at hn
      split at hn
      · rename_i hall
        exact ne_newline_of_isHexDigit (List.all_eq_true.1 hall x hx)
      · exact absurd hn (Option.some_ne_none n).symm
    refine ih.behind (w := ['\\', 'u', a, b, c, d]) (fun x hx => ?_) n
    rcases List.mem_cons.1 hx with rfl | hx
    · decide
    · rcases List.mem_cons.1 hx with rfl | hx
      · decide
      · exact hhex x hx
  | case5 => exact .inl rfl
  | case6 e s _ c hc ih =>
    refine ih.behind (w := ['\\', e]) (fun x hx => ?_) c.toNat
    simp only [List.mem_cons, List.not_mem_nil, or_false] at hx
    rcases hx with rfl | rfl
    · decide
    · rintro rfl
      exact absurd hc (Option.some_ne_none c).symm
  | case7 => exact .inl rfl
  | case8 c s _ _ _ hc ih =>
    refine ih.behind (w := [c]) (fun x hx => ?_) c.toNat
    rw [List.mem_singleton.1 hx]
    rintro rfl
    exact absurd hc (by decide)

section
variable [StandIns]

/-- A text with its quotes. -/
theorem reads_text (depth : Nat) (s : List Char) :
    Reads depth (fun _ => True) ('"' :: s) (readText s) := by
  rcases onLine_readUnits s with h | ⟨body, units, rest, h, rfl, hbody⟩
  · rw [readText, h]
    exact .malformed
  · have hline : '\n' ∉ '"' :: (body ++ ['"']) := by simp [hbody]
    have htaken : '"' :: (body ++ '"' :: rest) = ('"' :: (body ++ ['"'])) ++ rest := by simp
    rw [readText, h]
    refine .ok htaken (.of_line hline (fun c hc => ?_) fun c hc => ?_) trivial
    · obtain rfl := Option.some.inj hc
      decide
    · rw [← List.cons_append, List.getLast?_concat] at hc
      obtain rfl := Option.some.inj hc
      decide

end

/-! ### Numbers and names -/

/-- A character that numbers are written with. -/
def isNumberChar (c : Char) : Bool := c.isDigit || ['+', '-', '.', 'e', 'E'].contains c

theorem isNumberChar_of_isDigit {c : Char} (h : c.isDigit = true) : isNumberChar c = true := by
  rw [isNumberChar, h, Bool.true_or]

theorem Unfenced.of_number {w : List Char} (h : ∀ c ∈ w, isNumberChar c = true) : Unfenced w := by
  refine .of_forall fun c hc => ⟨?_, ?_, ?_⟩ <;> rintro rfl <;> exact absurd (h _ hc) (by decide)

theorem takeDigits_spec (s : List Char) :
    s = (takeDigits s).1 ++ (takeDigits s).2 ∧ ∀ c ∈ (takeDigits s).1, c.isDigit = true := by
  rw [takeDigits, List.span_eq_takeWhile_dropWhile]
  exact ⟨List.takeWhile_append_dropWhile.symm, fun c hc => List.mem_takeWhile_imp hc⟩

theorem takeWhole_spec (s : List Char) :
    s = (takeWhole s).1 ++ (takeWhole s).2 ∧ ∀ c ∈ (takeWhole s).1, c.isDigit = true := by
  unfold takeWhole
  split
  · refine ⟨rfl, fun c hc => ?_⟩
    rw [List.mem_singleton.1 hc]
    decide
  · exact takeDigits_spec _

/-- Digits behind what numbers are written with. -/
theorem exists_takeDigits {w : List Char} (hw : ∀ c ∈ w, isNumberChar c = true) (s : List Char) :
    ∃ v, w ++ s = v ++ (takeDigits s).2 ∧ ∀ c ∈ v, isNumberChar c = true := by
  have ⟨hs, hdigits⟩ := takeDigits_spec s
  refine ⟨w ++ (takeDigits s).1, by rw [List.append_assoc, ← hs], fun c hc => ?_⟩
  rcases List.mem_append.1 hc with hc | hc
  · exact hw c hc
  · exact isNumberChar_of_isDigit (hdigits c hc)

/-- What is behind the whole digits of a number: characters of the number, and the rest. -/
theorem exists_takeFraction (s : List Char) :
    ∃ w, s = w ++ (takeFraction s).2 ∧ ∀ c ∈ w, isNumberChar c = true := by
  unfold takeFraction
  split
  · rename_i rest
    split
    · exact ⟨[], rfl, fun _ hc => absurd hc List.not_mem_nil⟩
    · exact exists_takeDigits (w := ['.']) (List.forall_mem_singleton.2 (by decide)) rest
  · exact ⟨[], rfl, fun _ hc => absurd hc List.not_mem_nil⟩

theorem exists_takeExponent (s : List Char) :
    ∃ w, s = w ++ (takeExponent s).2 ∧ ∀ c ∈ w, isNumberChar c = true := by
  have hnone (s : List Char) : ∃ w, s = w ++ s ∧ ∀ c ∈ w, isNumberChar c = true :=
    ⟨[], rfl, fun _ hc => absurd hc List.not_mem_nil⟩
  unfold takeExponent
  split
  · rename_i e rest
    split
    · rename_i he
      have hletter : isNumberChar e = true := by
        simp only [Bool.or_eq_true, beq_iff_eq] at he
        rcases he with rfl | rfl <;> decide
      simp only
      split
      · exact hnone _
      · rename_i digits t _ hdigits
        have hsigned : ∃ sign, rest = sign ++ (takeSign rest).2 ∧
            ∀ c ∈ sign, isNumberChar c = true := by
          unfold takeSign
          split
          · exact ⟨['-'], rfl, List.forall_mem_singleton.2 (by decide)⟩
          · exact ⟨['+'], rfl, List.forall_mem_singleton.2 (by decide)⟩
          · exact ⟨[], rfl, by simp⟩
        obtain ⟨sign, hrest, hsign⟩ := hsigned
        have hw : ∀ c ∈ e :: sign, isNumberChar c = true := by
          intro c hc
          rcases List.mem_cons.1 hc with rfl | hc
          · exact hletter
          · exact hsign c hc
        have h := exists_takeDigits hw (takeSign rest).2
        rwa [hdigits, List.cons_append, ← hrest] at h
    · exact hnone _
  · exact hnone _

/-- A number, from behind its sign. -/
theorem reads_number (depth : Nat) (negative : Bool) (s : List Char) :
    Reads depth (·.isWritable = true) s (readNumber negative s) := by
  unfold readNumber
  split
  · exact .malformed
  · rename_i whole behind _ hwhole
    have ⟨hs, hdigits⟩ := takeWhole_spec s
    rw [hwhole] at hs hdigits
    obtain ⟨fraction, hbehind, hfraction⟩ := exists_takeFraction behind
    obtain ⟨exponent, hrest, hexponent⟩ := exists_takeExponent (takeFraction behind).2
    have htaken :
        s = (whole ++ (fraction ++ exponent)) ++ (takeExponent (takeFraction behind).2).2 := by
      rw [List.append_assoc, List.append_assoc, ← hrest, ← hbehind, ← hs]
    have hnumber : Unfenced (whole ++ (fraction ++ exponent)) := by
      refine .append (.of_number fun c hc => isNumberChar_of_isDigit (hdigits c hc)) ?_
      exact .append (.of_number hfraction) (.of_number hexponent)
    simp only
    split
    · split
      · rename_i e he
        obtain ⟨rfl, hlong⟩ := readNaturalWithin_eq_error he
        exact .error (.numeral (hs ▸ (List.prefix_append _ _).isInfix) hdigits hlong)
      · rename_i n hn
        refine .ok htaken hnumber ?_
        have hwritable := isWritable_of_readNatural hn
        cases negative <;> simpa [Value.isWritable, Text.isWritable] using hwritable
    · exact .ok htaken hnumber rfl

theorem unfenced_name {entry : String × Value} (h : entry ∈ names) :
    Unfenced entry.1.toList ∧ entry.2.isWritable = true := by
  have hnames : ∀ entry ∈ names, '\n' ∉ entry.1.toList ∧ entry.1.toList.head? ≠ some '\x60' ∧
      entry.1.toList.getLast? ≠ some '\x60' ∧ entry.1.toList.getLast? ≠ some 'n' ∧
      entry.2.isWritable = true := by decide
  obtain ⟨hline, hhead, hlast, hn, hwritable⟩ := hnames entry h
  refine ⟨.of_line hline (fun c hc => ?_) fun c hc => ⟨?_, ?_⟩, hwritable⟩
  · rintro rfl
    exact hhead hc
  · rintro rfl
    exact hlast hc
  · rintro rfl
    exact hn hc

theorem eq_append_of_afterName? {name : String} {s rest : List Char}
    (h : afterName? name s = some rest) : s = name.toList ++ rest := by
  unfold afterName? at h
  split at h
  · rename_i hstarts
    obtain ⟨t, rfl⟩ := List.isPrefixOf_iff_prefix.1 hstarts
    obtain rfl := Option.some.inj h
    rw [← String.length_toList, List.drop_left]
  · exact absurd h (Option.some_ne_none _).symm

theorem reads_scalar (depth : Nat) (s : List Char) :
    Reads depth (·.isWritable = true) s (readScalar s) := by
  unfold readScalar
  split
  · rename_i reading h
    obtain ⟨entry, hentry, hreading⟩ := List.exists_of_findSome?_eq_some h
    obtain ⟨rest, hrest, rfl⟩ := Option.map_eq_some_iff.1 hreading
    have ⟨hname, hwritable⟩ := unfenced_name hentry
    exact .ok (eq_append_of_afterName? hrest) hname hwritable
  · split
    · exact (reads_number depth true _).mark (by decide)
    · exact reads_number depth false _

/-- Whether a character starts what reading can fail at although it is JSON: a list, a table or
a number. -/
def starts (c : Char) : Bool := opens c || c == '-' || c.isDigit

theorem readScalar_malformed {s : List Char} (hs : ∀ c ∈ s.head?, starts c = false) {e : ReadError}
    (h : readScalar s = .error e) : e = .malformed := by
  have hwhole : (takeWhole s).1 = [] := by
    unfold takeWhole
    split
    · exact absurd (hs _ rfl) (by decide)
    · rw [takeDigits, List.span_eq_takeWhile_dropWhile]
      cases s with
      | nil => rfl
      | cons c s =>
        have hc := hs c rfl
        simp only [starts, Bool.or_eq_false_iff] at hc
        exact List.takeWhile_cons_of_neg (by simp [hc.2])
  unfold readScalar at h
  split at h
  · exact absurd h (by simp)
  · split at h
    · exact absurd (hs _ rfl) (by decide)
    · unfold readNumber at h
      split at h
      · exact (Except.error.inj h).symm
      · rename_i hne heq
        rw [heq] at hwhole
        exact absurd hwhole hne

theorem readScalar_ne_table {s rest : List Char} {v : Value} (h : readScalar s = .ok (v, rest))
    (entries : Entries) : v ≠ .table entries := by
  have hnumber (negative : Bool) (s : List Char) (h : readNumber negative s = .ok (v, rest)) :
      v ≠ .table entries := by
    unfold readNumber at h
    split at h
    · exact absurd h (by simp)
    · dsimp only at h
      split at h
      · split at h
        · exact absurd h (by simp)
        · obtain ⟨rfl, -⟩ := Prod.mk.inj (Except.ok.inj h)
          simp
      · obtain ⟨rfl, -⟩ := Prod.mk.inj (Except.ok.inj h)
        simp
  have hnames : ∀ entry ∈ names, entry.2 ≠ .table entries := by simp [names]
  unfold readScalar at h
  split at h
  · rename_i reading hfound
    obtain rfl := Except.ok.inj h
    obtain ⟨entry, hentry, hreading⟩ := List.exists_of_findSome?_eq_some hfound
    obtain ⟨_, -, hpair⟩ := Option.map_eq_some_iff.1 hreading
    obtain ⟨rfl, -⟩ := Prod.mk.inj hpair
    exact hnames entry hentry
  · split at h
    · exact hnumber true _ h
    · exact hnumber false s h

/-! ### Values -/

theorem areWritable_iff {items : List Value} :
    Value.areWritable items = true ↔ ∀ v ∈ items, v.isWritable = true := by
  induction items with
  | nil => simp [Value.areWritable]
  | cons v rest ih => simp [Value.areWritable, ih]

theorem entriesWritable_iff {entries : List (String × Value)} :
    Value.entriesWritable entries = true ↔ ∀ e ∈ entries, e.2.isWritable = true := by
  induction entries with
  | nil => simp [Value.entriesWritable]
  | cons e rest ih => simp [Value.entriesWritable, ih]

section
variable [StandIns]

section Step
variable {bound : Nat}

/-- A value, with the items and the entries that the bound leaves. -/
theorem reads_value_succ
    (hitems : ∀ depth s, Reads depth (Value.areWritable · = true) s (readItems bound depth s))
    (hentries : ∀ depth s,
      Reads depth (Value.entriesWritable · = true) s (readEntries bound depth s))
    (depth : Nat) (s : List Char) :
    Reads depth (·.isWritable = true) s (readValue (bound + 1) depth s) := by
  rw [readValue.eq_def]
  dsimp only
  split
  · exact (reads_text depth _).map Value.text fun _ _ => rfl
  · cases depth with
    | zero => exact .error (.tooDeep (by simp [opens]))
    | succ depth =>
      refine .inside rfl (.behindSpace ?_)
      dsimp only
      generalize skipSpace _ = t
      split
      · exact .close (by decide) rfl
      · exact (hitems depth _).map Value.list fun _ h => h
  · cases depth with
    | zero => exact .error (.tooDeep (by simp [opens]))
    | succ depth =>
      refine .inside rfl (.behindSpace ?_)
      dsimp only
      generalize skipSpace _ = t
      split
      · exact .close (by decide) rfl
      · refine (hentries depth _).map (Value.table ∘ Keyed.ofList) fun entries h => ?_
        refine entriesWritable_iff.2 fun e he => ?_
        exact entriesWritable_iff.1 h e (Keyed.mem_ofList he)
  · exact reads_scalar depth s

/-- One item, and those behind it. -/
theorem reads_items_succ
    (hvalue : ∀ depth s, Reads depth (·.isWritable = true) s (readValue bound depth s))
    (hitems : ∀ depth s, Reads depth (Value.areWritable · = true) s (readItems bound depth s))
    (depth : Nat) (s : List Char) :
    Reads depth (Value.areWritable · = true) s (readItems (bound + 1) depth s) := by
  rw [readItems]
  refine (hvalue depth s).bind fun v rest hv => .behindSpace ?_
  dsimp only
  generalize skipSpace rest = t
  split
  · refine .close (by decide) ?_
    simp [Value.areWritable, hv]
  · refine .mark (by decide) (.behindSpace ?_)
    refine (hitems depth _).bind fun items rest h => .pure ?_
    simp [Value.areWritable, hv, h]
  · exact .malformed

/-- One entry, and those behind it. -/
theorem reads_entries_succ
    (hvalue : ∀ depth s, Reads depth (·.isWritable = true) s (readValue bound depth s))
    (hentries : ∀ depth s,
      Reads depth (Value.entriesWritable · = true) s (readEntries bound depth s))
    (depth : Nat) (s : List Char) :
    Reads depth (Value.entriesWritable · = true) s (readEntries (bound + 1) depth s) := by
  rw [readEntries.eq_def]
  dsimp only
  split
  · rename_i s
    refine (reads_text depth s).bind fun key rest _ => .behindSpace ?_
    dsimp only
    generalize skipSpace rest = t
    split
    · refine .mark (by decide) (.behindSpace ?_)
      refine (hvalue depth _).bind fun v rest hv => .behindSpace ?_
      dsimp only
      generalize skipSpace rest = t
      split
      · refine .close (by decide) ?_
        simp [Value.entriesWritable, hv]
      · refine .mark (by decide) (.behindSpace ?_)
        refine (hentries depth _).bind fun entries rest h => .pure ?_
        simp [Value.entriesWritable, hv, h]
      · exact .malformed
    · exact .malformed
  · exact .malformed

end Step

/-- The readers of values, of items and of entries go by one bound. -/
theorem reads_within (bound : Nat) :
    (∀ depth s, Reads depth (·.isWritable = true) s (readValue bound depth s)) ∧
      (∀ depth s, Reads depth (Value.areWritable · = true) s (readItems bound depth s)) ∧
      ∀ depth s, Reads depth (Value.entriesWritable · = true) s (readEntries bound depth s) := by
  induction bound with
  | zero =>
    refine ⟨fun depth s => ?_, fun depth s => ?_, fun depth s => ?_⟩
    · rw [readValue]
      exact .malformed
    · rw [readItems]
      exact .malformed
    · rw [readEntries]
      exact .malformed
  | succ bound ih =>
    obtain ⟨hvalue, hitems, hentries⟩ := ih
    exact ⟨reads_value_succ hitems hentries, reads_items_succ hvalue hitems,
      reads_entries_succ hvalue hentries⟩

theorem reads_value (bound depth : Nat) (s : List Char) :
    Reads depth (·.isWritable = true) s (readValue bound depth s) := (reads_within bound).1 depth s

/-- A text that is JSON as a whole neither opens nor closes a fenced block, and its value can be
written. -/
theorem unfenced_of_readChars {s : List Char} {v : Value} (h : readChars s = .ok v) :
    Unfenced s ∧ v.isWritable = true := by
  obtain ⟨⟨v', rest⟩, hread, hend⟩ := Outcome.bind_eq_ok_iff.1 h
  dsimp only at hend
  split at hend
  · rename_i hspace
    obtain rfl := Except.ok.inj hend
    obtain ⟨front, hfront, hunfenced⟩ := exists_skipSpace s
    obtain ⟨back, hback, hunfenced'⟩ := exists_skipSpace rest
    rw [List.isEmpty_iff.1 hspace, List.append_nil] at hback
    have hreads := reads_value (2 * s.length + 2) depthLimit (skipSpace s)
    rw [hread] at hreads
    cases hreads with
    | ok htaken hw hwritable =>
      refine ⟨?_, hwritable⟩
      rw [hfront, htaken, hback]
      exact hunfenced.append (hw.append hunfenced')
  · exact absurd hend (by simp)

theorem flaw_of_readChars {s : List Char} {e : ReadError} (h : readChars s = .error e) :
    Flaw depthLimit s e := by
  rcases Outcome.bind_eq_error_iff.1 h with hread | ⟨⟨v, rest⟩, -, hend⟩
  · obtain ⟨front, hfront, -⟩ := exists_skipSpace s
    have hreads := reads_value (2 * s.length + 2) depthLimit (skipSpace s)
    rw [hread] at hreads
    cases hreads with
    | error hflaw =>
      rw [hfront]
      exact hflaw.of_append
  · dsimp only at hend
    split at hend
    · exact absurd hend (by simp [pure, Except.pure])
    · obtain rfl := Except.error.inj hend
      exact .malformed

theorem readValue_malformed {bound depth : Nat} {s : List Char}
    (hs : ∀ c ∈ s.head?, starts c = false) {e : ReadError}
    (h : readValue bound depth s = .error e) : e = .malformed := by
  cases bound with
  | zero =>
    rw [readValue] at h
    exact (Except.error.inj h).symm
  | succ bound =>
    rw [readValue.eq_def] at h
    dsimp only at h
    split at h
    · rename_i s
      have htext := Outcome.map_eq_error_iff.1 h
      rcases onLine_readUnits s with hunits | ⟨body, units, rest, hunits, -⟩
      · rw [readText, hunits] at htext
        exact (Except.error.inj htext).symm
      · rw [readText, hunits] at htext
        exact absurd htext (by simp [Except.map])
    · exact absurd (hs _ rfl) (by decide)
    · exact absurd (hs _ rfl) (by decide)
    · exact readScalar_malformed hs h

theorem readChars_malformed {s : List Char} (hs : ∀ c ∈ (skipSpace s).head?, starts c = false)
    {e : ReadError} (h : readChars s = .error e) : e = .malformed := by
  rcases Outcome.bind_eq_error_iff.1 h with hread | ⟨⟨v, rest⟩, -, hend⟩
  · exact readValue_malformed hs hread
  · dsimp only at hend
    split at hend
    · exact absurd hend (by simp [pure, Except.pure])
    · exact (Except.error.inj hend).symm

/-- Only behind a brace there is a table. -/
theorem readValue_ne_table {bound depth : Nat} {s rest : List Char} {v : Value}
    (hs : s.head? ≠ some '\x7b') (h : readValue bound depth s = .ok (v, rest)) (entries : Entries) :
    v ≠ .table entries := by
  cases bound with
  | zero =>
    rw [readValue] at h
    exact absurd h (by simp)
  | succ bound =>
    rw [readValue.eq_def] at h
    dsimp only at h
    split at h
    · obtain ⟨_, -, hpair⟩ := Outcome.map_eq_ok_iff.1 h
      obtain ⟨rfl, -⟩ := Prod.mk.inj hpair
      simp
    · split at h
      · exact absurd h (by simp)
      · split at h
        · obtain ⟨rfl, -⟩ := Prod.mk.inj (Except.ok.inj h)
          simp
        · obtain ⟨_, -, hpair⟩ := Outcome.map_eq_ok_iff.1 h
          obtain ⟨rfl, -⟩ := Prod.mk.inj hpair
          simp
    · exact absurd rfl hs
    · exact readScalar_ne_table h entries

end

end PatchReview.Json
