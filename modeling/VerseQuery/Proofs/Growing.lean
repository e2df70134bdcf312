/-
# The risk of a search that grows

A request can be made to ask for more in many ways: by words that must or must not occur, by
plurals, by synonyms of more words or more of each, by a greater distance in a rule, and by one more
rule.  None of them takes anything away, so the search is part of the one that it becomes
(`Settings.Grows.isPartOf`).  Its risk can only grow, then: cost, volume and warning never get lower
(`risk_grows`).
-/
import Mathlib.Data.List.Nodup
import VerseQuery.Proofs.Weights

namespace VerseQuery

open Text

namespace Settings

/-- The ways in which a search can grow: it gets narrower by words that must or must not occur, or
it gets wider. -/
inductive Grows (s : Settings) (r : Request) (e : Option Expansion) :
    Settings → Request → Option Expansion → Prop where
  | narrows {r' : Request} (h : r.Narrows r') : s.Grows r e s r' e
  | widens {s' : Settings} {r' : Request} {e' : Option Expansion} (h : s.Widens r e s' r' e') :
      s.Grows r e s' r' e'

variable {s s' : Settings} {r r' : Request} {e e' : Option Expansion}

/-- The text itself is not among the synonyms, and none is among them twice. -/
theorem nodup_synonymsFor : (trim r.text :: s.synonymsFor r e).Nodup := by
  cases e with
  | none => exact List.nodup_singleton _
  | some known =>
    rw [synonymsFor]
    split
    · refine List.nodup_cons.2 ⟨fun hmem => ?_, nodup_firstSeen _⟩
      exact (Expansion.mem_flatten_iff.1 hmem).2.1 rfl
    · exact List.nodup_singleton _

/-- If each alternative is still there, then each synonym is there as often as before. -/
theorem Extends.subperm_synonymsFor (h : s.Extends r e s' r' e') :
    (s.synonymsFor r e).Subperm (s'.synonymsFor r' e') := by
  have hall : (trim r.text :: s.synonymsFor r e).Subperm (trim r'.text :: s'.synonymsFor r' e') :=
    nodup_synonymsFor.subperm fun alt halt =>
      mem_synonymsFor.2 (h.alternatives alt (mem_synonymsFor.1 halt))
  rwa [h.text, List.subperm_cons] at hall

theorem Widens.isPartOf (h : s.Widens r e s' r' e') : s.IsPartOf r e s' r' e' where
  text := h.extends.text
  mode := h.extends.mode
  plurals := h.extends.plurals
  required := h.extends.required ▸ .refl _
  excluded := h.extends.excluded ▸ .refl _
  synonyms := h.extends.subperm_synonymsFor
  newRules := h.extends.newRules
  threshold := by cases h <;> rfl
  rules := by
    cases h with
    | @distance before after rule d h hd =>
      refine ⟨_, ?_, .refl _⟩
      rw [h]
      exact List.rel_append (ProximityRule.forall₂_within_self before)
        (.cons (ProximityRule.within_of_le hd) (ProximityRule.forall₂_within_self after))
    | rule rule h =>
      exact ⟨_, ProximityRule.forall₂_within_self _, (List.sublist_append_left _ _).subperm⟩
    | _ => exact ⟨_, ProximityRule.forall₂_within_self _, .refl _⟩

end Settings

theorem Request.Narrows.isPartOf {s : Settings} {r r' : Request} {e : Option Expansion}
    (h : r.Narrows r') : s.IsPartOf r e s r' e := by
  have hrules := ProximityRule.forall₂_within_self r.proximity
  cases h with
  | requiring terms =>
    exact ⟨rfl, rfl, id, (List.sublist_append_left _ _).subperm, .refl _, .refl _,
      ⟨_, hrules, .refl _⟩, id, rfl⟩
  | excluding terms =>
    exact ⟨rfl, rfl, id, .refl _, (List.sublist_append_left _ _).subperm, .refl _,
      ⟨_, hrules, .refl _⟩, id, rfl⟩

/-- **However a search grows, it is part of what it becomes.** -/
theorem Settings.Grows.isPartOf {s s' : Settings} {r r' : Request} {e e' : Option Expansion}
    (h : s.Grows r e s' r' e') : s.IsPartOf r e s' r' e' := by
  cases h with
  | narrows h => exact h.isPartOf
  | widens h => exact h.isPartOf

/-- **The risk of a search grows with the search.**  No cost is above 100; and with more words that
must or must not occur, with plurals, synonyms of more words or more of each, a greater distance in
a rule or one more rule, neither the cost nor the volume nor the gravity of the warning gets lower,
unless the query gets too large for the settings and there is none. -/
theorem risk_grows {s : Settings} {r : Request} {e : Option Expansion} {q : CompiledQuery}
    (hq : (s.compile r e).result = .ok q) :
    q.cost ≤ 100 ∧ ∀ s' r' e', s.Grows r e s' r' e' →
      (s'.compile r' e').IsTooLarge ∨ ∃ q', (s'.compile r' e').result = .ok q' ∧
        q.cost ≤ q'.cost ∧ q.volume ≤ q'.volume ∧ gravity q.warning ≤ gravity q'.warning := by
  refine ⟨?_, fun _ _ _ h => h.isPartOf.isTooLarge_or_risk_le hq⟩
  obtain ⟨-, -, rfl⟩ := Settings.compile_eq_ok_iff.1 hq
  exact Nat.min_le_left _ _

/-- A search for a word and its plural as they are written, whose synonyms are not known yet. -/
def loveRequest : Request where
  text := "love"
  ignoreCase := false
  plurals := true
  synonyms := true

/-- With a synonym it needs a group, and costs more. -/
theorem risk_grows_charity : ∃ q q', (Settings.compile {} loveRequest none).result = .ok q ∧
    (Settings.compile {} loveRequest (some ⟨[⟨"love", ["charity"]⟩]⟩)).result = .ok q' ∧
    q.pattern.source = "loves?" ∧ q'.pattern.source = "(?:love|charity)s?" ∧
    q.cost = 11 ∧ q'.cost = 27 ∧ q.cost ≤ q'.cost ∧ q.volume ≤ q'.volume ∧
    gravity q.warning ≤ gravity q'.warning := by
  have hfits' : (loveRequest.pattern (Settings.synonymsFor {} loveRequest
      (some ⟨[⟨"love", ["charity"]⟩]⟩))).fits (Settings.sizeLimit {}) = true := by
    decide +kernel
  have hq := Settings.compile_of_fits (s := {}) (r := loveRequest) (e := none) (by decide)
    (by decide +kernel)
  have hq' := Settings.compile_of_fits (s := {}) (r := loveRequest)
    (e := some ⟨[⟨"love", ["charity"]⟩]⟩) (by decide) hfits'
  have hwide := @Settings.Widens.synonymSet {} loveRequest none [] [] ⟨"love", ["charity"]⟩ rfl
  obtain ⟨q, hsame, hcost, hvolume, hwarning⟩ :=
    ((risk_grows hq).2 _ _ _ (.widens hwide)).resolve_left
      (Settings.not_isTooLarge hfits')
  obtain rfl := Except.ok.inj (hq'.symm.trans hsame)
  exact ⟨_, _, hq, hq', by decide +kernel, by decide +kernel, by decide +kernel, by decide +kernel,
    hcost, hvolume, hwarning⟩

end VerseQuery
