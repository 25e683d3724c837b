import Mathlib.Data.Set.Function
import PatchReview.Proofs.Digest
import PatchReview.Proofs.Policy.Selection

/-! What findings are told apart by.

A finding is identified by texts with bars between them, and a text may hold bars itself. So two
findings with one digest may be different findings, but only if a bar of a text takes the place of
one between texts: with as many bars in each text but the last, the texts are the same
(`intercalate_bar_inj`). That is what the repetitions that are dropped have in common with what
is published, and similar findings with one another (`repetitions_and_groups`). -/
namespace PatchReview

open Text

/-! ### Texts between bars -/

/-- How many bars a text has. -/
def bars (s : String) : Nat := s.toList.count '|'

/-- The bar behind `a` is found by the number of those before it. -/
theorem append_bar_inj {a b s t : List Char} (h : a ++ '|' :: s = b ++ '|' :: t)
    (hbars : a.count '|' = b.count '|') : a = b ∧ s = t := by
  induction a generalizing b with
  | nil =>
    cases b with
    | nil => exact ⟨rfl, (List.cons.inj h).2⟩
    | cons d b =>
      rw [← (List.cons.inj h).1, List.count_cons_self] at hbars
      exact absurd hbars (Nat.succ_ne_zero _).symm
  | cons c a ih =>
    cases b with
    | nil =>
      rw [(List.cons.inj h).1, List.count_cons_self] at hbars
      exact absurd hbars (Nat.succ_ne_zero _)
    | cons d b =>
      obtain ⟨rfl, hrest⟩ := List.cons.inj h
      rw [List.count_cons, List.count_cons, Nat.add_right_cancel_iff] at hbars
      obtain ⟨rfl, rfl⟩ := ih hrest hbars
      exact ⟨rfl, rfl⟩

/-- Texts between bars that begin with as many bars begin with the same text. -/
theorem intercalate_bar_inj {s t : String} {s' t' : String} {rest more : List String}
    (h : "|".intercalate (s :: s' :: rest) = "|".intercalate (t :: t' :: more))
    (hbars : bars s = bars t) :
    s = t ∧ "|".intercalate (s' :: rest) = "|".intercalate (t' :: more) := by
  have hlist := congrArg String.toList h
  simp only [String.intercalate_cons_cons, String.toList_append, List.append_assoc] at hlist
  obtain ⟨hfirst, hrest⟩ := append_bar_inj hlist hbars
  exact ⟨String.toList_inj.1 hfirst, String.toList_inj.1 hrest⟩

theorem bars_eq_zero {s : String} (h : '|' ∉ s.toList) : bars s = 0 := List.count_eq_zero.2 h

theorem bars_repr (i : Int) : bars i.repr = 0 := by
  refine bars_eq_zero fun h => ?_
  rcases isDigit_of_mem_intRepr h with h | h
  · exact absurd h (by decide)
  · exact absurd h (by decide)

/-! ### Fingerprints -/

/-- Where digests do not collide, a text is known by its digest. -/
theorem eq_of_hex_eq {digest : List UInt8 → List UInt8} {known : Set (List UInt8)}
    (hknown : known.InjOn digest) {s t : String} (hs : Utf8.encode s.toList ∈ known)
    (ht : Utf8.encode t.toList ∈ known)
    (h : Digest.hex (digest (Utf8.encode s.toList)) = Digest.hex (digest (Utf8.encode t.toList))) :
    s = t :=
  String.toList_inj.1 (encode_injective (hknown hs ht (Digest.hex_injective h)))

namespace FindingOf

/-- Findings about the same content, for the same rule and at the same place. -/
structure SameIdentity (f g : Finding) : Prop where
  file : f.file = g.file
  startLine : f.startLine = g.startLine
  endLine : f.endLine = g.endLine
  ruleId : f.ruleId = g.ruleId
  content : f.content = g.content

variable [StandIns]

/-- The bytes whose digest is the fingerprint. -/
def identityBytes (f : Finding) : List UInt8 := Utf8.encode f.identity.toList

theorem identity_eq_of_sameIdentity {f g : Finding} (h : f.SameIdentity g) :
    f.identity = g.identity := by
  rw [identity, identity, startText, startText, endText, endText, h.file, h.startLine, h.endLine,
    h.ruleId, h.content]

theorem sameIdentity_of_identity_eq {f g : Finding} (h : f.identity = g.identity)
    (hfile : bars f.file = bars g.file) (hrule : bars f.ruleId = bars g.ruleId) :
    f.SameIdentity g := by
  have hline (i j : Int) : bars i.repr = bars j.repr := (bars_repr i).trans (bars_repr j).symm
  obtain ⟨hfile, h⟩ := intercalate_bar_inj h hfile
  obtain ⟨hstart, h⟩ := intercalate_bar_inj h (hline _ _)
  obtain ⟨hend, h⟩ := intercalate_bar_inj h (hline _ _)
  obtain ⟨hrule, h⟩ := intercalate_bar_inj h hrule
  exact ⟨hfile, intRepr_injective hstart, intRepr_injective hend, hrule, h⟩

/-- Where digests do not collide, findings are the same exactly if they have one digest, and no bar
of a text takes the place of one between texts. -/
theorem sameIdentity_iff {known : Set (List UInt8)} (hknown : known.InjOn Digest.Sha1.digest)
    {f g : Finding} (hf : f.identityBytes ∈ known) (hg : g.identityBytes ∈ known) :
    f.SameIdentity g ↔
      f.digest = g.digest ∧ bars f.file = bars g.file ∧ bars f.ruleId = bars g.ruleId := by
  constructor
  · intro h
    refine ⟨?_, congrArg bars h.file, congrArg bars h.ruleId⟩
    rw [digest, digest, identity_eq_of_sameIdentity h]
  · rintro ⟨hdigest, hfile, hrule⟩
    rw [digest, digest] at hdigest
    exact sameIdentity_of_identity_eq (eq_of_hex_eq hknown hf hg hdigest) hfile hrule

end FindingOf

/-! ### Signatures -/

namespace Consolidation
variable {ν : Type}

/-- Findings for the same rule, of the same severity and with titles that start alike. -/
structure SameSignature (f g : FindingOf ν) : Prop where
  ruleId : f.ruleId = g.ruleId
  severity : f.severity = g.severity
  title : f.title.toList.take titleLength = g.title.toList.take titleLength

/-- The bytes whose digest is the signature. -/
def signatureBytes (f : FindingOf ν) : List UInt8 := Utf8.encode (signatureText f).toList

theorem signatureText_eq_of_sameSignature {f g : FindingOf ν} (h : SameSignature f g) :
    signatureText f = signatureText g := by
  rw [signatureText, signatureText, h.ruleId, h.severity, h.title]

theorem sameSignature_of_signatureText_eq {f g : FindingOf ν}
    (h : signatureText f = signatureText g) (hrule : bars f.ruleId = bars g.ruleId)
    (hseverity : bars f.severity = bars g.severity) : SameSignature f g := by
  obtain ⟨hrule, h⟩ := intercalate_bar_inj h hrule
  obtain ⟨hseverity, h⟩ := intercalate_bar_inj h hseverity
  rw [String.intercalate_singleton, String.intercalate_singleton, String.ofList_inj] at h
  exact ⟨hrule, hseverity, h⟩

theorem sameSignature_iff {known : Set (List UInt8)} (hknown : known.InjOn Digest.Md5.digest)
    {f g : FindingOf ν} (hf : signatureBytes f ∈ known) (hg : signatureBytes g ∈ known) :
    SameSignature f g ↔ signature f = signature g ∧
      bars f.ruleId = bars g.ruleId ∧ bars f.severity = bars g.severity := by
  constructor
  · intro h
    refine ⟨?_, congrArg bars h.ruleId, congrArg bars h.severity⟩
    rw [signature, signature, signatureText_eq_of_sameSignature h]
  · rintro ⟨hsignature, hrule, hseverity⟩
    rw [signature, signature] at hsignature
    exact sameSignature_of_signatureText_eq (eq_of_hex_eq hknown hf hg hsignature) hrule hseverity

end Consolidation

/-! ### Repetitions and groups -/

namespace PolicySettings

section
variable [StandIns] (p : PolicySettings)

theorem exists_of_mem_published {picked out : List Finding}
    (h : List.Forall₂ PublishedAs picked out) {g : Finding} (hg : g ∈ out) :
    ∃ f ∈ picked, PublishedAs f g := by
  induction h with
  | nil => exact absurd hg List.not_mem_nil
  | @cons f _ _ _ hpublished _ ih =>
    rcases List.mem_cons.1 hg with rfl | hg
    · exact ⟨f, List.mem_cons_self, hpublished⟩
    · obtain ⟨f', hf', hpublished'⟩ := ih hg
      exact ⟨f', List.mem_cons_of_mem _ hf', hpublished'⟩

/-- A fingerprint among those of what is published for the findings before is that of one of
them. -/
theorem exists_of_mem_fingerprints {findings before after : List Finding} {f : Finding}
    (h : p.Unblocked findings) (hsplit : p.consolidated findings = before ++ f :: after)
    {digest : String} (hdigest : some digest ∈ (p.emitted before).map (·.fingerprint)) :
    ∃ g ∈ before, g.fingerprinted = .ok digest ∧
      ∃ out ∈ p.emitted before, PublishedAs g out ∧ out.fingerprint = some digest := by
  obtain ⟨out, hout, hfingerprint⟩ := List.mem_map.1 hdigest
  have hbefore : p.publishFault? p.maxComments.toNat (p.passed before) = none := by
    obtain ⟨more, hmore⟩ := p.passed_prefix_append before (f :: after)
    have hall := h.publishable
    rw [hsplit, ← hmore] at hall
    exact p.publishFault?_of_append hall
  obtain ⟨picked, hsub, hpicked⟩ := (p.sound_emitted hbefore).picked
  obtain ⟨g, hg, hpublished⟩ := exists_of_mem_published hpicked hout
  obtain ⟨known, hknown, hout'⟩ := hpublished.fingerprint_eq
  obtain rfl := Option.some.inj (hout'.symm.trans hfingerprint)
  exact ⟨g, hsub.subset hg, hknown, out, hout, hpublished, hfingerprint⟩

/-- **Identity.** Where the digests of what is compared do not collide, findings are the same
exactly if they have one fingerprint and as many bars in file and rule. What is dropped as a
repetition repeats a finding that is published, as far as the bars show. And findings are put
together exactly if they are similar, as far as the bars show. -/
theorem repetitions_and_groups (findings : List Finding)
    (hidentity : Set.InjOn Digest.Sha1.digest
      {bytes | ∃ f ∈ p.consolidated findings, f.identityBytes = bytes})
    (hsignature : Set.InjOn Digest.Md5.digest
      {bytes | ∃ f ∈ findings, Consolidation.signatureBytes f = bytes}) :
    (∀ f ∈ p.consolidated findings, ∀ g ∈ p.consolidated findings, ∀ digest other,
      f.fingerprinted = .ok digest → g.fingerprinted = .ok other →
        (f.SameIdentity g ↔
          digest = other ∧ bars f.file = bars g.file ∧ bars f.ruleId = bars g.ruleId)) ∧
    (∀ out, p.selection findings = .ok out → ∀ before f after,
      p.consolidated findings = before ++ f :: after → ∀ digest, f.fingerprinted = .ok digest →
        some digest ∈ (p.emitted before).map (·.fingerprint) →
          ∃ g ∈ before, (∃ h ∈ p.emitted before, PublishedAs g h ∧ h.fingerprint = some digest) ∧
            (f.SameIdentity g ↔ bars f.file = bars g.file ∧ bars f.ruleId = bars g.ruleId)) ∧
    ∀ f ∈ findings, ∀ g ∈ findings,
      (Consolidation.SameSignature f g ↔
        (∃ group ∈ Consolidation.groups findings, f ∈ group.2 ∧ g ∈ group.2) ∧
          bars f.ruleId = bars g.ruleId ∧ bars f.severity = bars g.severity) := by
  have hsame : ∀ f ∈ p.consolidated findings, ∀ g ∈ p.consolidated findings, ∀ digest other,
      f.fingerprinted = .ok digest → g.fingerprinted = .ok other →
        (f.SameIdentity g ↔
          digest = other ∧ bars f.file = bars g.file ∧ bars f.ruleId = bars g.ruleId) := by
    intro f hf g hg digest other hdigest hother
    rw [eq_digest_of_fingerprinted hdigest, eq_digest_of_fingerprinted hother]
    exact FindingOf.sameIdentity_iff hidentity ⟨f, hf, rfl⟩ ⟨g, hg, rfl⟩
  refine ⟨hsame, ?_, ?_⟩
  · intro out hout before f after hsplit digest hdigest hmem
    have hunblocked : p.Unblocked findings := by
      rcases p.unblocked_or_error findings with h | ⟨e, he, -⟩
      · exact h
      · exact absurd (hout.symm.trans he) (by simp)
    obtain ⟨g, hg, hknown, hpublished⟩ := p.exists_of_mem_fingerprints hunblocked hsplit hmem
    have hfm : f ∈ p.consolidated findings := by
      rw [hsplit]
      exact List.mem_append_right _ List.mem_cons_self
    have hgm : g ∈ p.consolidated findings := by
      rw [hsplit]
      exact List.mem_append_left _ hg
    refine ⟨g, hg, hpublished, ?_⟩
    rw [hsame f hfm g hgm digest digest hdigest hknown, and_iff_right rfl]
  · intro f hf g hg
    rw [Consolidation.exists_group_iff hf hg]
    exact Consolidation.sameSignature_iff hsignature ⟨f, hf, rfl⟩ ⟨g, hg, rfl⟩

end

/-- A finding with a bar in its rule. -/
def barInRule : Finding := ⟨"R|info", "T", "info", "f.py", 1, 1, "", "", "c", none, none⟩

/-- A finding with that bar in its title and its content. -/
def barInTitle : Finding := ⟨"R", "info|T", "info", "f.py", 1, 1, "", "", "info|c", none, none⟩

/-- A finding without bars. -/
def withoutBars : Finding := ⟨"S", "T", "info", "f.py", 2, 2, "", "", "d", none, none⟩

theorem injOn_of_ne {digest : List UInt8 → List UInt8} {bytes : Finding → List UInt8}
    (htwin : bytes barInTitle = bytes barInRule)
    (hne : digest (bytes barInRule) ≠ digest (bytes withoutBars)) :
    Set.InjOn digest {known | ∃ f ∈ [barInRule, barInTitle, withoutBars], bytes f = known} := by
  have hpair : Set.InjOn digest {bytes barInRule, bytes withoutBars} :=
    Set.injOn_pair.2 fun h => absurd h hne
  refine hpair.mono ?_
  rintro _ ⟨f, hf, rfl⟩
  simp only [List.mem_cons, List.not_mem_nil, or_false] at hf
  rcases hf with rfl | rfl | rfl
  · exact .inl rfl
  · exact .inl htwin
  · exact .inr rfl

/-- Digests do not collide here, and yet two different findings have one fingerprint and are in one
group. -/
theorem repetitions_and_groups_barred :
    letI : StandIns := ⟨.besides []⟩
    let findings := [barInRule, barInTitle, withoutBars]
    Set.InjOn Digest.Sha1.digest {bytes | ∃ f ∈ findings, f.identityBytes = bytes} ∧
      Set.InjOn Digest.Md5.digest {bytes | ∃ f ∈ findings, Consolidation.signatureBytes f = bytes} ∧
      (∃ digest, barInRule.fingerprinted = .ok digest ∧ barInTitle.fingerprinted = .ok digest) ∧
      ¬barInRule.SameIdentity barInTitle ∧
      (∃ group ∈ Consolidation.groups findings, barInRule ∈ group.2 ∧ barInTitle ∈ group.2) ∧
      ¬Consolidation.SameSignature barInRule barInTitle := by
  let _ : StandIns := ⟨.besides []⟩
  intro findings
  have hrule : barInRule ∈ findings := List.mem_cons_self
  have htitle : barInTitle ∈ findings := List.mem_cons_of_mem _ List.mem_cons_self
  have hbars : bars barInRule.ruleId ≠ bars barInTitle.ruleId := by decide
  have hidentity : Set.InjOn Digest.Sha1.digest
      {bytes | ∃ f ∈ findings, f.identityBytes = bytes} :=
    injOn_of_ne (by decide +kernel) (by decide +kernel)
  have hsignature : Set.InjOn Digest.Md5.digest
      {bytes | ∃ f ∈ findings, Consolidation.signatureBytes f = bytes} :=
    injOn_of_ne (by decide +kernel) (by decide +kernel)
  have hfirst : barInRule.fingerprinted = .ok barInRule.digest :=
    fingerprinted_eq_ok (Option.isNone_iff_eq_none.1 (by decide +kernel))
  have hsecond : barInTitle.fingerprinted = .ok barInRule.digest := by
    have hidentity : barInTitle.identity = barInRule.identity := by decide +kernel
    rw [fingerprinted_eq_ok (Option.isNone_iff_eq_none.1 (by decide +kernel)), FindingOf.digest,
      hidentity, ← FindingOf.digest]
  have hsame : Consolidation.signature barInRule = Consolidation.signature barInTitle := by
    have htext : Consolidation.signatureText barInTitle =
        Consolidation.signatureText barInRule := by decide +kernel
    rw [Consolidation.signature, Consolidation.signature, htext]
  obtain ⟨hfingerprints, -, hgroups⟩ :=
    PolicySettings.default.repetitions_and_groups findings hidentity hsignature
  refine ⟨hidentity, hsignature, ⟨_, hfirst, hsecond⟩, fun h => ?_,
    (Consolidation.exists_group_iff hrule htitle).2 hsame, fun h => ?_⟩
  · have hsame := hfingerprints _ hrule _ htitle _ _ hfirst hsecond
    exact hbars (hsame.1 h).2.2
  · exact hbars ((hgroups _ hrule _ htitle).1 h).2.1

end PolicySettings

end PatchReview
