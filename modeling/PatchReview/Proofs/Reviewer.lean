import PatchReview.Proofs.Reply.Written
import PatchReview.Reviewer

/-! What a review with a model comes to once the model has answered.

Whatever the model answers, the review fails only for one of three reasons (`Refusal`): a chunk has
a line number that is too long to be written, the reply has a number that is too long or is nested
too deep, or a finding in it has a text for a line that passes for a number and is none. Otherwise
there is one finding for each table in the reply, and every line that is not given falls back to
its default (`refuses_only`). -/
namespace PatchReview.Reviewer

open Text

section
variable [StandIns]

/-- Why a review can fail although its model has answered. -/
inductive Refusal (chunks : List Chunk) (reply : String) : Failure → Prop where
  | chunk {c : Chunk} (hc : c ∈ chunks) (hline : isWritable c.line = false) :
    Refusal chunks reply (.numeral .unwritable)
  | reply {e : Failure} (hfound : Reply.findings reply = .error e)
      (hoversized : Reply.Oversized reply.toList e) : Refusal chunks reply e
  | line {tables : List Entries} (hfound : Reply.findings reply = .ok tables) {raw : Entries}
      (hraw : raw ∈ tables) (hline : Finding.RefusesLine raw) (e : NumeralError) :
    Refusal chunks reply (.numeral e)

/-- Writing chunks into a question fails only at the number of a line. -/
theorem refusal_of_fault? {chunks : List Chunk} {reply : String} {e : Failure}
    (h : Messages.fault? chunks = some e) : Refusal chunks reply e := by
  unfold Messages.fault? at h
  split at h
  · exact absurd h (Option.some_ne_none e).symm
  · rename_i hall
    obtain rfl := Option.some.inj h
    obtain ⟨c, hc, hline⟩ := List.all_eq_false.1 (Bool.eq_false_iff.2 hall)
    exact .chunk hc (Bool.eq_false_iff.2 hline)

omit [StandIns] in
theorem isWritable_of_fault? {chunks : List Chunk} (h : Messages.fault? chunks = none) {c : Chunk}
    (hc : c ∈ chunks) : isWritable c.line = true := by
  unfold Messages.fault? at h
  split at h
  · rename_i hall
    exact List.all_eq_true.1 hall c hc
  · exact absurd h (Option.some_ne_none _)

section Tables
variable {reply : String} {tables : List Entries}

/-- A table of a reply describes a finding exactly if it is not refused for its lines. -/
theorem ofEntries_cases (hfound : Reply.findings reply = .ok tables) {raw : Entries}
    (hraw : raw ∈ tables) :
    (Finding.RefusesLine raw ∧ ∃ e, Finding.ofEntries raw = .error (.numeral e)) ∨
      (¬Finding.RefusesLine raw ∧
        ∃ f, Finding.ofEntries raw = .ok f ∧ Finding.GivesLines raw f) := by
  by_cases hline : Finding.RefusesLine raw
  · exact .inl ⟨hline, Finding.ofEntries_of_refusesLine hline⟩
  · refine .inr ⟨hline, Finding.exists_ofEntries hline fun name v hv => ?_⟩
    exact Reply.isWritable_of_get? (Reply.isWritable_of_mem_findings hfound hraw) hv

theorem refusal_of_ofReply (chunks : List Chunk) {e : Failure}
    (h : Finding.ofReply reply = .error e) : Refusal chunks reply e := by
  rcases Outcome.bind_eq_error_iff.1 h with hfound | ⟨tables, hfound, h⟩
  · exact .reply hfound (Reply.oversized_of_findings hfound)
  · obtain ⟨raw, hraw, he⟩ := Outcome.exists_of_mapM_eq_error h
    rcases ofEntries_cases hfound hraw with ⟨hline, e', he'⟩ | ⟨-, f, hf, -⟩
    · obtain rfl := Except.error.inj (he'.symm.trans he)
      exact .line hfound hraw hline e'
    · exact absurd (he.symm.trans hf) (by simp)

/-- A finding as a table describes it, which has to be accepted. -/
structure DescribedBy (f : Finding) (raw : Entries) : Prop where
  accepted : ¬Finding.RefusesLine raw
  eq_ok : Finding.ofEntries raw = .ok f
  lines : Finding.GivesLines raw f

theorem exists_tables_of_ofReply {found : List Finding} (h : Finding.ofReply reply = .ok found) :
    ∃ tables, Reply.findings reply = .ok tables ∧
      List.Forall₂ DescribedBy found tables := by
  obtain ⟨tables, hfound, h⟩ := Outcome.bind_eq_ok_iff.1 h
  refine ⟨tables, hfound, Outcome.forall₂_of_mapM h fun raw hraw f hf => ?_⟩
  rcases ofEntries_cases hfound hraw with ⟨-, e, he⟩ | ⟨hline, f', hf', hlines⟩
  · exact absurd (hf.symm.trans he) (by simp)
  · obtain rfl := Except.ok.inj (hf'.symm.trans hf)
    exact ⟨hline, hf, hlines⟩

end Tables

/-- With the reply of the model the findings are those of the reply. -/
theorem review_ofModel (name : String) (prompts : Option Prompts)
    {model : Messages → Outcome String} {chunks : List Chunk} (hchunks : chunks ≠ [])
    {reply : String} (hreply : model (Messages.about prompts chunks) = .ok reply) :
    (ofModel name (.ok prompts) model).review chunks =
      match Messages.fault? chunks with
      | some e => .error e
      | none => Finding.ofReply reply := by
  have hempty : chunks.isEmpty = false := by simpa using hchunks
  simp only [ofModel, hempty, Bool.false_eq_true, if_false]
  cases Messages.fault? chunks with
  | some e => rfl
  | none => simp only [bind, Except.bind, hreply]

/-- A review of some chunks, once its model has answered, fails only for a refusal, and has a result
exactly if there is none: a finding for each table in the reply, with the lines that the table gives
and the defaults for those that it does not. -/
theorem refuses_only (name : String) (prompts : Option Prompts) {model : Messages → Outcome String}
    {chunks : List Chunk} (hchunks : chunks ≠ []) {reply : String}
    (hreply : model (Messages.about prompts chunks) = .ok reply) :
    (∀ e, (ofModel name (.ok prompts) model).review chunks = .error e → Refusal chunks reply e) ∧
      ((∃ found, (ofModel name (.ok prompts) model).review chunks = .ok found) ↔
        ∀ e, ¬Refusal chunks reply e) ∧
      ∀ found, (ofModel name (.ok prompts) model).review chunks = .ok found →
        ∃ tables, Reply.findings reply = .ok tables ∧
          List.Forall₂ DescribedBy found tables := by
  have hreview := review_ofModel name prompts hchunks hreply
  generalize (ofModel name (.ok prompts) model).review chunks = out at hreview ⊢
  cases hfault : Messages.fault? chunks with
  | some cause =>
    rw [hfault] at hreview
    obtain rfl := hreview
    have hrefusal : Refusal chunks reply cause := refusal_of_fault? hfault
    refine ⟨fun e h => Except.error.inj h ▸ hrefusal, ?_, fun found h => absurd h (by simp)⟩
    constructor
    · rintro ⟨found, h⟩
      exact absurd h (by simp)
    · exact fun hnone => absurd hrefusal (hnone cause)
  | none =>
    rw [hfault] at hreview
    obtain rfl := hreview
    refine ⟨fun e h => refusal_of_ofReply chunks h, ?_, fun found h => exists_tables_of_ofReply h⟩
    constructor
    · rintro ⟨found, h⟩ e hrefusal
      obtain ⟨tables, hfound, hdescribed⟩ := exists_tables_of_ofReply h
      cases hrefusal with
      | chunk hc hline => exact absurd (isWritable_of_fault? hfault hc) (by simp [hline])
      | reply herror => exact absurd (herror.symm.trans hfound) (by simp)
      | line hfound' hraw hline =>
        obtain rfl := Except.ok.inj (hfound'.symm.trans hfound)
        obtain ⟨f, -, hdescribes⟩ := Outcome.exists_of_forall₂ hdescribed hraw
        exact hdescribes.accepted hline
    · intro hnone
      cases hout : Finding.ofReply reply with
      | error e => exact absurd (refusal_of_ofReply chunks hout) (hnone e)
      | ok found => exact ⟨found, rfl⟩

end

/-- A reply with one finding, whose line is a text with blanks around. -/
theorem refuses_only_seven :
    letI : StandIns := ⟨.besides []⟩
    let chunk : Chunk := ⟨"a.py", "", none⟩
    let reply := "\x7b\"findings\": [\x7b\"line\": \" 7 \"\x7d]\x7d"
    [chunk] ≠ [] ∧ (∀ e, ¬Refusal [chunk] reply e) ∧
      ∃ found, (ofModel "model" (.ok none) fun _ => .ok reply).review [chunk] = .ok found := by
  generalize StandIns.mk (.besides []) = standIns
  intro chunk reply
  have hexact : Json.Exact (.table [("findings", .list [.table [("line", .text " 7 ")]])]) := by
    refine .table (by decide) fun e he => ?_
    obtain rfl := List.mem_singleton.1 he
    refine .list fun v hv => ?_
    obtain rfl := List.mem_singleton.1 hv
    refine .table (by decide) fun e he => ?_
    obtain rfl := List.mem_singleton.1 he
    exact .text " 7 "
  have hfound : Reply.findings reply = .ok [[("line", .text " 7 ")]] := by
    refine Reply.findings_of_write ⟨none, false, false⟩ rfl rfl hexact (by decide) ?_
    have hchars : Json.writeValue ⟨none, false, false⟩ 0
        (.table [("findings", .list [.table [("line", .text " 7 ")]])]) = .ok reply.toList := by
      simp [Json.writeValue, Json.writeEntries, Json.writeItems, Json.arrange, Json.writeEntry,
        Json.enclose, Json.breakTo, reply]
      rfl
    rw [Json.write, hchars]
    exact congrArg Except.ok String.ofList_toList
  have haccepted : ¬Finding.RefusesLine [("line", .text " 7 ")] := by
    rintro ⟨v, hv | hv, s, rfl, -, hplain⟩
    · obtain rfl := Value.text.inj (Option.some.inj hv)
      have htrimmed : (trimmed " 7 ").toList = ['7'] := by decide
      rw [htrimmed] at hplain
      exact hplain ⟨List.forall_mem_singleton.2 (by decide), by decide⟩
    · exact absurd hv (Option.some_ne_none _).symm
  have hnone : ∀ e, ¬Refusal [chunk] reply e := by
    intro e h
    cases h with
    | chunk hc hline =>
      obtain rfl := List.mem_singleton.1 hc
      have hone : isWritable chunk.line = true :=
        isWritable_of_readNatural (show readNatural ['1'] = .ok 1 from rfl)
      exact Bool.false_ne_true (hline.symm.trans hone)
    | reply herror => exact absurd (herror.symm.trans hfound) (by simp)
    | line hfound' hraw hline =>
      obtain rfl := Except.ok.inj (hfound'.symm.trans hfound)
      exact haccepted (List.mem_singleton.1 hraw ▸ hline)
  have h := @refuses_only _ "model" none (fun _ => .ok reply) [chunk] (by simp) reply rfl
  obtain ⟨-, hiff, -⟩ := h
  exact ⟨List.cons_ne_nil chunk [], hnone, hiff.2 hnone⟩

end PatchReview.Reviewer
