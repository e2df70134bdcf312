/-
# Searches in another order

The terms and the rules of a request stand in some order, and so do the words that an expansion has
synonyms for.  What is a result does not depend on it, and neither does the risk (`same_in_any_order`):
in another order each of two searches is part of the other.

The order has its say in two places only.  Where several alternatives match at one place, the first
of them makes the span; and alternatives with a common beginning may take a larger machine in one
order than in another.  Terms do neither.  They can be put in another order, be repeated and be
rid of repetitions, and even the spans stay the same.
-/
import Mathlib.Data.List.Perm.Basic
import VerseQuery.Proofs.Weights

namespace VerseQuery

open Text

/-! ## 1. The same in another order -/

/-- The second request has the terms and the rules of the first in another order. -/
inductive Request.Reordered (r : Request) : Request → Prop where
  | intro {required excluded : List String} {proximity : List ProximityRule}
      (hrequired : r.required.Perm required) (hexcluded : r.excluded.Perm excluded)
      (hproximity : r.proximity.Perm proximity) :
      r.Reordered { r with required, excluded, proximity }

/-- The second expansion has the words of the first, with their synonyms, in another order. -/
def Expansion.Reordered (e e' : Expansion) : Prop :=
  e.sets.Perm e'.sets

/-- The second request has the terms of the first, no matter how often and in which order. -/
inductive Request.SameTerms (r : Request) : Request → Prop where
  | intro {required excluded : List String} (hrequired : ∀ t, t ∈ r.required ↔ t ∈ required)
      (hexcluded : ∀ t, t ∈ r.excluded ↔ t ∈ excluded) :
      r.SameTerms { r with required, excluded }

/-! ## 2. What is searched for -/

section Order

variable {s : Settings} {r r' : Request} {e e' : Option Expansion}

theorem Request.Reordered.symm (h : r.Reordered r') : r'.Reordered r := by
  cases h with
  | intro hrequired hexcluded hproximity =>
    exact .intro hrequired.symm hexcluded.symm hproximity.symm

theorem Expansion.Reordered.option_symm (h : Option.Rel Expansion.Reordered e e') :
    Option.Rel Expansion.Reordered e' e := by
  cases h with
  | some h => exact .some h.symm
  | none => exact .none

/-- In another order the words make up the same alternatives, each of them once. -/
theorem Expansion.Reordered.flatten {e e' : Expansion} (h : e.Reordered e') (limit : Nat)
    (text : String) : (e.flatten limit text).Perm (e'.flatten limit text) := by
  rw [Expansion.flatten, Expansion.flatten,
    List.perm_ext_iff_of_nodup (nodup_firstSeen _) (nodup_firstSeen _)]
  intro x
  rw [← Expansion.flatten, ← Expansion.flatten, mem_flatten_iff, mem_flatten_iff]
  simp only [h.mem_iff]

theorem Request.Reordered.synonymsFor (h : r.Reordered r')
    (he : Option.Rel Expansion.Reordered e e') :
    (s.synonymsFor r e).Perm (s.synonymsFor r' e') := by
  cases h with
  | intro =>
    cases he with
    | none => exact .refl _
    | some he =>
      rw [Settings.synonymsFor, Settings.synonymsFor]
      cases hasked : r.synonyms with
      | false => exact .refl _
      | true => exact he.flatten _ _

/-- **In another order a search is part of what it was.** -/
theorem Request.Reordered.isPartOf (h : r.Reordered r')
    (he : Option.Rel Expansion.Reordered e e') : s.IsPartOf r e s r' e' := by
  have hsynonyms := (h.synonymsFor (s := s) he).subperm
  cases h with
  | intro hrequired hexcluded hproximity =>
    refine ⟨rfl, rfl, id, hrequired.subperm, hexcluded.subperm, hsynonyms, ?_, fun hnone => ?_, rfl⟩
    · exact ⟨_, ProximityRule.forall₂_within_self _, hproximity.subperm⟩
    · rw [usableRules_eq_nil_iff] at hnone ⊢
      exact fun rule hrule => hnone rule (hproximity.mem_iff.2 hrule)

/-- Which terms there are says which texts keep them. -/
theorem Request.SameTerms.keptBy (h : r.SameTerms r') {text : List Char} (hkept : r.KeptBy text) :
    r'.KeptBy text := by
  cases h with
  | intro hrequired hexcluded =>
    exact ⟨fun t ht => hkept.required t ((hrequired t).2 ht),
      fun t ht => hkept.excluded t ((hexcluded t).2 ht)⟩

theorem Request.SameTerms.symm (h : r.SameTerms r') : r'.SameTerms r := by
  cases h with
  | intro hrequired hexcluded =>
    exact .intro (fun t => (hrequired t).symm) fun t => (hexcluded t).symm

theorem Request.Reordered.keptBy (h : r.Reordered r') {text : List Char} (hkept : r.KeptBy text) :
    r'.KeptBy text := by
  cases h with
  | intro hrequired hexcluded =>
    exact ⟨fun t ht => hkept.required t (hrequired.mem_iff.2 ht),
      fun t ht => hkept.excluded t (hexcluded.mem_iff.2 ht)⟩

/-- What is searched for is found in the same texts. -/
theorem Request.Reordered.foundIn (h : r.Reordered r') (he : Option.Rel Expansion.Reordered e e')
    {text : List Char} (hfound : r.FoundIn (s.synonymsFor r e) text) :
    r'.FoundIn (s.synonymsFor r' e') text := by
  have hsynonyms := h.synonymsFor (s := s) he
  cases h with
  | intro hrequired hexcluded hproximity =>
    rename_i proximity
    -- terms are not searched for, so they may be left as they are
    have hext : s.Extends r e s { r with proximity } e' :=
      { required := rfl
        excluded := rfl
        flags := rfl
        text := rfl
        mode := rfl
        plurals := id
        alternatives := fun alt halt => by
          rw [← Settings.mem_synonymsFor] at halt ⊢
          exact (hsynonyms.cons (trim r.text)).mem_iff.1 halt
        rules := fun rule hrule => ⟨rule, hproximity.mem_iff.1 hrule, .rfl⟩
        newRules := fun hnone => by
          rw [usableRules_eq_nil_iff] at hnone ⊢
          exact fun rule hrule => hnone rule (hproximity.mem_iff.2 hrule) }
    exact hext.foundIn hfound

end Order

/-! ## 3. Terms -/

namespace Request.SameTerms

variable {s : Settings} {r r' : Request} {e : Option Expansion} {q q' : CompiledQuery}

/-- The same machines are made, if not as often. -/
theorem fits (h : r.SameTerms r') {synonyms : List String} {limit : UInt64}
    (hfits : (r.pattern synonyms).fits limit = true) :
    (r'.pattern synonyms).fits limit = true := by
  have hwords : ∀ {terms terms' : List String}, (∀ t, t ∈ terms ↔ t ∈ terms') →
      Constraints.wordPatterns terms' ⊆ Constraints.wordPatterns terms := by
    intro terms terms' hmem p hp
    simp only [Constraints.wordPatterns, List.mem_map, mem_keptTerms, hmem] at hp ⊢
    exact hp
  cases h with
  | intro hrequired hexcluded =>
    refine QueryPattern.fits_of_subset (q := r.pattern synonyms) rfl (fun p hp => ?_) hfits
    rcases List.mem_cons.1 hp with rfl | hp
    · exact List.mem_cons_self
    · refine List.mem_cons_of_mem _ (List.mem_append.2 ?_)
      exact (List.mem_append.1 hp).imp (fun hp => hwords hrequired hp) fun hp => hwords hexcluded hp

/-- **Repeated or in another order, terms change neither results nor spans.** -/
theorem sameResults (h : r.SameTerms r') (hq : (s.compile r e).result = .ok q) :
    ∃ q', (s.compile r' e).result = .ok q' ∧ ∀ text,
      q'.pattern.isMatch text = q.pattern.isMatch text ∧
        q'.pattern.byteSpans text = q.pattern.byteSpans text := by
  have hsynonyms : s.synonymsFor r' e = s.synonymsFor r e := by
    cases h
    cases e <;> rfl
  obtain ⟨hinput, hfits, -⟩ := Settings.compile_eq_ok_iff.1 hq
  have hinput' : r'.hasInput = true := by
    cases h
    exact hinput
  have hq' := Settings.compile_of_fits (s := s) (r := r') (e := e) hinput'
    (hsynonyms ▸ h.fits hfits)
  refine ⟨_, hq', fun text => ?_⟩
  have hhold : (s.assemble r' (s.synonymsFor r' e)).pattern.constraintsHold text =
      q.pattern.constraintsHold text := by
    rw [Bool.eq_iff_iff, Settings.constraintsHold_iff hq', Settings.constraintsHold_iff hq]
    exact ⟨h.symm.keptBy, h.keptBy⟩
  have hbody : (r'.pattern (s.synonymsFor r e)).body = (r.pattern (s.synonymsFor r e)).body := by
    cases h
    rfl
  have hflags : (r'.pattern (s.synonymsFor r e)).flags = (r.pattern (s.synonymsFor r e)).flags := by
    cases h
    rfl
  rw [Settings.pattern_of_compile hq', hsynonyms, Settings.pattern_of_compile hq] at hhold ⊢
  rw [QueryPattern.isMatch, QueryPattern.isMatch, QueryPattern.byteSpans, QueryPattern.byteSpans,
    QueryPattern.spans, QueryPattern.spans, hhold, hbody, hflags]
  exact ⟨rfl, rfl⟩

end Request.SameTerms

/-! ## 4. The result -/

/-- Volumes that are not above each other are the same. -/
theorem Volume.le_antisymm {a b : Volume} (hab : a ≤ b) (hba : b ≤ a) : a = b := by
  have hrank : a.rank = b.rank := Nat.le_antisymm hab hba
  cases a <;> cases b <;> simp_all [rank]

/-- **Order does not matter.**  With its terms, its rules and the words of its expansion in another
order, a search has the same results, the same cost, the same volume and the same warning, unless
its machine gets too large in that order.  With the same terms, in any order and as often as you
like, it has the same results and the same spans. -/
theorem same_in_any_order {s : Settings} {r : Request} {e : Option Expansion} {q : CompiledQuery}
    (hq : (s.compile r e).result = .ok q) :
    (∀ r' e', r.Reordered r' → Option.Rel Expansion.Reordered e e' →
      (s.compile r' e').IsTooLarge ∨ ∃ q', (s.compile r' e').result = .ok q' ∧
        (∀ text, q'.pattern.isMatch text = q.pattern.isMatch text) ∧
        q'.cost = q.cost ∧ q'.volume = q.volume ∧ q'.warning = q.warning) ∧
    ∀ r', r.SameTerms r' → ∃ q', (s.compile r' e).result = .ok q' ∧ ∀ text,
      q'.pattern.isMatch text = q.pattern.isMatch text ∧
        q'.pattern.byteSpans text = q.pattern.byteSpans text := by
  refine ⟨fun r' e' h he => ?_, fun r' h => h.sameResults hq⟩
  have he' := Expansion.Reordered.option_symm he
  refine ((h.isPartOf he).isTooLarge_or_risk_le hq).imp_right fun ⟨q', hq', hcost, hvolume, _⟩ => ?_
  obtain ⟨hinput, hfits, -⟩ := Settings.compile_eq_ok_iff.1 hq
  obtain hlarge | ⟨q'', hq'', hcost', hvolume', -⟩ := (h.symm.isPartOf he').isTooLarge_or_risk_le hq'
  · exact absurd hlarge (Settings.not_isTooLarge hfits)
  · obtain rfl : q'' = q := Except.ok.inj (hq''.symm.trans hq)
    have hsameCost : q'.cost = q''.cost := Nat.le_antisymm hcost' hcost
    have hsameVolume : q'.volume = q''.volume := Volume.le_antisymm hvolume' hvolume
    refine ⟨q', hq', fun text => ?_, hsameCost, hsameVolume, ?_⟩
    · rw [Bool.eq_iff_iff, Settings.isMatch_iff hq', Settings.isMatch_iff hq]
      constructor
      · exact fun ⟨hkept, hfound⟩ => ⟨h.symm.keptBy hkept, h.symm.foundIn he' hfound⟩
      · exact fun ⟨hkept, hfound⟩ => ⟨h.keptBy hkept, h.foundIn he hfound⟩
    · rw [Settings.warning_of_compile hq', Settings.warning_of_compile hq, hsameCost, hsameVolume]

/-- A search for a word or a synonym of it, with two words that must occur. -/
def sowRequest : Request where
  text := "sow"
  mode := .wholeWord
  synonyms := true
  required := ["seed", " field"]

def sowSynonyms : Expansion := ⟨[⟨"sow", ["plant"]⟩, ⟨"reap", ["plant ", "scatter"]⟩]⟩

/-- The same search in another order, in which another of the copies of one synonym comes first. -/
def sowRequest' : Request :=
  { sowRequest with required := [" field", "seed"] }

def sowSynonyms' : Expansion := ⟨[⟨"reap", ["plant ", "scatter"]⟩, ⟨"sow", ["plant"]⟩]⟩

/-- It has the same results and the same risk; with a term said twice, the same spans. -/
theorem same_in_any_order_sow : ∃ q q' q'',
    (Settings.compile {} sowRequest (some sowSynonyms)).result = .ok q ∧
      (Settings.compile {} sowRequest' (some sowSynonyms')).result = .ok q' ∧
      (Settings.compile {} { sowRequest with required := ["seed", " field", "seed"] }
        (some sowSynonyms)).result = .ok q'' ∧
      q.pattern.source ≠ q'.pattern.source ∧
      (∀ text, q'.pattern.isMatch text = q.pattern.isMatch text) ∧
      q.cost = 100 ∧ q'.cost = q.cost ∧ q'.volume = q.volume ∧ q'.warning = q.warning ∧
      q.pattern.byteSpans "Scatter seed on the field" = [⟨0, 7⟩] ∧
      q''.pattern.byteSpans "Scatter seed on the field" = [⟨0, 7⟩] := by
  have hq := Settings.compile_of_fits (s := {}) (r := sowRequest) (e := some sowSynonyms)
    (by decide) (by decide +kernel)
  have hq' := Settings.compile_of_fits (s := {}) (r := sowRequest') (e := some sowSynonyms')
    (by decide) (by decide +kernel)
  have hrequest : sowRequest.Reordered sowRequest' :=
    .intro (List.Perm.swap _ _ _) (.refl _) (.refl _)
  have hsynonyms : sowSynonyms.Reordered sowSynonyms' := List.Perm.swap _ _ _
  have hterms : sowRequest.SameTerms { sowRequest with required := ["seed", " field", "seed"] } := by
    refine .intro (fun t => ?_) fun t => Iff.rfl
    simp only [sowRequest, List.mem_cons, List.not_mem_nil, or_false]
    exact ⟨Or.imp_right Or.inl, fun h => h.elim Or.inl Or.symm⟩
  obtain ⟨horder, hrepeated⟩ := same_in_any_order hq
  obtain ⟨q, hsame, hmatch, hcost, hvolume, hwarning⟩ :=
    (horder _ _ hrequest (.some hsynonyms)).resolve_left
      (Settings.not_isTooLarge (by decide +kernel))
  obtain rfl := Except.ok.inj (hq'.symm.trans hsame)
  obtain ⟨q'', hq'', hresults⟩ := hrepeated _ hterms
  exact ⟨_, _, q'', hq, hq', hq'', by decide +kernel, hmatch, by decide +kernel, hcost, hvolume,
    hwarning, by decide +kernel, (hresults _).2.trans (by decide +kernel)⟩

/-- A machine that is small enough in one order may be too large in another. -/
example : (sowRequest.caseSensitive.pattern ["i", "in", "ink"]).fits 690 = true ∧
    (sowRequest.caseSensitive.pattern ["in", "i", "ink"]).fits 690 = false := by
  decide +kernel

end VerseQuery
