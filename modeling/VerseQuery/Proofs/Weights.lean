/-
# What the text of a query weighs

The risk of a query is read off its text, and most of what is counted there are characters:
quantifier signs, opening brackets, question marks, bytes.  Each such count is a weight.  A scale
says what a character weighs, and the weight of a text is the sum over its characters.

A search *is part of* another one if the other has all its terms, synonyms and rules, as often as it
has them itself, or rules for the same words that allow more (`Settings.IsPartOf`).  Its text is no
heavier then, on every scale on which all digits weigh the same (`Settings.IsPartOf.weight_le`): not
where a single alternative becomes a choice, and not where a distance is written with other digits.
From this it follows that the cost, the volume and the warning of a query are not below those of a
query that is part of it.
-/
import Mathlib.Algebra.Order.BigOperators.Group.List
import Mathlib.Algebra.Order.Ring.Nat
import Mathlib.Data.List.Perm.Subperm
import VerseQuery.Proofs.Risk
import VerseQuery.Proofs.Widening

namespace VerseQuery

open Text

/-! ## 1. Scales -/

/-- What the characters weigh on the scale, all together. -/
def weight (scale : Char → Nat) (cs : List Char) : Nat :=
  (cs.map scale).sum

/-- On a fair scale all digits weigh the same. -/
def IsFair (scale : Char → Nat) : Prop :=
  ∀ c : Char, c.isDigit = true → scale c = scale '0'

/-- What a list has less of adds up to less. -/
theorem sum_map_le_of_subperm {α : Type} {xs ys : List α} (f : α → Nat) (h : xs.Subperm ys) :
    (xs.map f).sum ≤ (ys.map f).sum := by
  obtain ⟨zs, hperm, hsub⟩ := h
  rw [← (hperm.map f).sum_eq]
  exact (hsub.map f).sum_le_sum fun _ _ => Nat.zero_le _

section Weight

variable {scale : Char → Nat}

theorem weight_nil : weight scale [] = 0 := rfl

theorem weight_cons (c : Char) (cs : List Char) :
    weight scale (c :: cs) = scale c + weight scale cs := by
  rw [weight, List.map_cons, List.sum_cons, weight]

theorem weight_append (a b : List Char) :
    weight scale (a ++ b) = weight scale a + weight scale b := by
  rw [weight, List.map_append, List.sum_append, weight, weight]

theorem weight_flatMap {α : Type} (f : α → List Char) (xs : List α) :
    weight scale (xs.flatMap f) = (xs.map fun x => weight scale (f x)).sum := by
  induction xs with
  | nil => rfl
  | cons x xs ih => rw [List.flatMap_cons, weight_append, ih, List.map_cons, List.sum_cons]

/-- A number is written with no fewer digits than a smaller one. -/
theorem weight_toDigits_le (hfair : IsFair scale) {m n : Nat} (h : m ≤ n) :
    weight scale (Nat.toDigits 10 m) ≤ weight scale (Nat.toDigits 10 n) := by
  have hdigits : ∀ k, weight scale (Nat.toDigits 10 k) = (Nat.toDigits 10 k).length * scale '0' := by
    intro k
    have hsame : (Nat.toDigits 10 k).map scale = (Nat.toDigits 10 k).map fun _ => scale '0' :=
      List.map_congr_left fun c hc =>
        hfair c (Nat.isDigit_of_mem_toDigits (by decide) (by decide) hc)
    rw [weight, hsame, List.map_const', List.sum_replicate_nat]
  have hlength : (Nat.toDigits 10 m).length ≤ (Nat.toDigits 10 n).length := by
    rw [Nat.length_toDigits_le_iff (by decide) Nat.length_toDigits_pos]
    exact h.trans_lt ((Nat.length_toDigits_le_iff (by decide) Nat.length_toDigits_pos).1 le_rfl)
  rw [hdigits, hdigits]
  exact Nat.mul_le_mul_right _ hlength

/-! ## 2. The pieces of a text -/

theorem weight_intercalate_bar (cs : List Char) (css : List (List Char)) :
    weight scale (['|'].intercalate (cs :: css)) =
      ((cs :: css).map (weight scale)).sum + css.length * scale '|' := by
  induction css generalizing cs with
  | nil => simp
  | cons ds css ih =>
    rw [List.intercalate_cons_cons, weight_append, weight_append, ih, weight_cons, weight_nil,
      List.map_cons (l := ds :: css), List.sum_cons, List.length_cons, Nat.add_one_mul]
    omega

/-- Alternatives weigh what each of them does; more than one have a bracket around them and bars
between them. -/
theorem weight_anyText (css : List (List Char)) : weight scale (anyText css) =
    (css.map (weight scale)).sum + if css.length ≤ 1 then 0
      else weight scale ['(', '?', ':'] + (css.length - 1) * scale '|' + weight scale [')'] := by
  match css with
  | [] => rfl
  | [cs] => simp [anyText]
  | cs :: ds :: css =>
    have hmany : ¬(cs :: ds :: css).length ≤ 1 := by simp
    have hbars : (cs :: ds :: css).length - 1 = (ds :: css).length := rfl
    rw [anyText, weight_append, weight_append, weight_intercalate_bar, if_neg hmany, hbars]
    omega

theorem weight_anyText_le {css dss : List (List Char)} (hlength : css.length ≤ dss.length)
    (hsum : (css.map (weight scale)).sum ≤ (dss.map (weight scale)).sum) :
    weight scale (anyText css) ≤ weight scale (anyText dss) := by
  have hbars : (css.length - 1) * scale '|' ≤ (dss.length - 1) * scale '|' :=
    Nat.mul_le_mul_right _ (Nat.sub_le_sub_right hlength 1)
  rw [weight_anyText, weight_anyText]
  split
  · omega
  · rw [if_neg (by omega)]
    omega

/-- What a mode puts around a text is the same around any text. -/
theorem weight_placeText (mode : MatchMode) (cs : List Char) :
    weight scale (mode.placeText cs) = weight scale (mode.placeText []) + weight scale cs := by
  cases mode <;> simp only [MatchMode.placeText, weight_append, weight_nil] <;> omega

theorem weight_placeText_le (mode : MatchMode) {a b : List Char}
    (h : weight scale a ≤ weight scale b) :
    weight scale (mode.placeText a) ≤ weight scale (mode.placeText b) := by
  rw [weight_placeText mode a, weight_placeText mode b]
  exact Nat.add_le_add_left h _

/-- A rule that allows more is written with as many digits or more. -/
theorem ProximityRule.Within.weight_text_le {rule wide : ProximityRule} (hfair : IsFair scale)
    (h : rule.Within wide) : weight scale rule.text ≤ weight scale wide.text := by
  have hdigits := weight_toDigits_le hfair h.bound
  rw [text, text, h.first, h.second]
  simp only [weight_append]
  omega

end Weight

/-! ## 3. Searches that are part of others -/

namespace Settings

/-- Whatever the first search has, the second one has as often: its terms, its synonyms and its
rules, or rules for the same words that allow more.  They search for the same text, and for rules
both or neither. -/
structure IsPartOf (s : Settings) (r : Request) (e : Option Expansion) (s' : Settings)
    (r' : Request) (e' : Option Expansion) : Prop where
  text : r'.text = r.text
  mode : r'.mode = r.mode
  plurals : r.plurals = true → r'.plurals = true
  required : r.required.Subperm r'.required
  excluded : r.excluded.Subperm r'.excluded
  synonyms : (s.synonymsFor r e).Subperm (s'.synonymsFor r' e')
  rules : ∃ wide, List.Forall₂ ProximityRule.Within r.proximity wide ∧ wide.Subperm r'.proximity
  /-- No rule is the first one of use. -/
  newRules : r.usableRules = [] → r'.usableRules = []
  threshold : s'.warningThreshold = s.warningThreshold

end Settings

/-- Of terms that another list has as often, no more are kept. -/
theorem sum_keptTerms_le {terms more : List String} (f : String → Nat) (h : terms.Subperm more) :
    ((keptTerms terms).map f).sum ≤ ((keptTerms more).map f).sum := by
  obtain ⟨same, hperm, hsub⟩ := h
  refine sum_map_le_of_subperm f ⟨keptTerms same, ?_, ?_⟩
  · exact (hperm.map trim).filter _
  · exact (hsub.map trim).filter _

/-- Rules are within themselves. -/
theorem ProximityRule.forall₂_within_self (rules : List ProximityRule) :
    List.Forall₂ Within rules rules :=
  List.forall₂_same.2 fun _ _ => .rfl

/-- Of two rules one of which is within the other, both are of use or neither. -/
theorem ProximityRule.forall₂_filter_isUsable {rules wide : List ProximityRule}
    (h : List.Forall₂ Within rules wide) :
    List.Forall₂ Within (rules.filter (·.isUsable)) (wide.filter (·.isUsable)) := by
  induction h with
  | nil => exact .nil
  | cons hrule _ ih =>
    rw [List.filter_cons, List.filter_cons, hrule.isUsable]
    split
    · exact .cons hrule ih
    · exact ih

namespace Settings.IsPartOf

variable {s s' : Settings} {r r' : Request} {e e' : Option Expansion} {scale : Char → Nat}

/-- The rules of use, too, are there as often, or rules that allow more. -/
theorem rulesOfUse (h : s.IsPartOf r e s' r' e') :
    ∃ wide, List.Forall₂ ProximityRule.Within (r.proximity.filter (·.isUsable)) wide ∧
      wide.Subperm (r'.proximity.filter (·.isUsable)) := by
  obtain ⟨wide, hwithin, hsub⟩ := h.rules
  exact ⟨_, ProximityRule.forall₂_filter_isUsable hwithin, hsub.filter _⟩

theorem usableRules_eq_nil_iff (h : s.IsPartOf r e s' r' e') :
    r'.usableRules = [] ↔ r.usableRules = [] := by
  refine ⟨fun hnone => ?_, h.newRules⟩
  obtain ⟨wide, hwithin, hsub⟩ := h.rulesOfUse
  rw [Request.usableRules, List.map_eq_nil_iff] at hnone ⊢
  rw [hnone, List.subperm_nil] at hsub
  rw [hsub, List.forall₂_nil_right_iff] at hwithin
  exact hwithin

/-- **What is searched for** is written with no fewer characters. -/
theorem weight_bodyText_le (h : s.IsPartOf r e s' r' e') (hfair : IsFair scale) :
    weight scale (r.bodyText (s.synonymsFor r e)) ≤
      weight scale (r'.bodyText (s'.synonymsFor r' e')) := by
  rw [Request.bodyText, Request.bodyText]
  by_cases hrules : r.usableRules = []
  · have hsynonyms := (List.subperm_cons (trim r.text)).2 h.synonyms
    have hplurals : weight scale (if r.plurals then ['s', '?'] else []) ≤
        weight scale (if r'.plurals then ['s', '?'] else []) := by
      cases hp : r.plurals with
      | false => exact Nat.zero_le _
      | true => rw [h.plurals hp]
    have hany : weight scale
          (anyText ((trim r.text :: s.synonymsFor r e).map fun text => escapeChars text.toList))
        ≤ weight scale (anyText
          ((trim r.text :: s'.synonymsFor r' e').map fun text => escapeChars text.toList)) := by
      refine weight_anyText_le ?_ ?_
      · rw [List.length_map, List.length_map]
        exact hsynonyms.length_le
      · rw [List.map_map, List.map_map]
        exact sum_map_le_of_subperm _ hsynonyms
    rw [if_pos (List.isEmpty_iff.2 hrules),
      if_pos (List.isEmpty_iff.2 (h.usableRules_eq_nil_iff.2 hrules)), h.mode, h.text]
    refine weight_placeText_le r.mode ?_
    rw [weight_append, weight_append]
    exact Nat.add_le_add hany hplurals
  · obtain ⟨wide, hwithin, hsub⟩ := h.rulesOfUse
    have hpairs : List.Forall₂ (· ≤ ·)
        ((r.proximity.filter (·.isUsable)).map fun rule => weight scale rule.text)
        (wide.map fun rule => weight scale rule.text) := by
      rw [List.forall₂_map_left_iff, List.forall₂_map_right_iff]
      exact hwithin.imp fun _ _ => ProximityRule.Within.weight_text_le hfair
    rw [if_neg (by simpa using hrules), if_neg (by simpa using mt h.usableRules_eq_nil_iff.1 hrules)]
    refine weight_anyText_le ?_ ?_
    · rw [List.length_map, List.length_map, hwithin.length_eq]
      exact hsub.length_le
    · rw [List.map_map, List.map_map]
      exact hpairs.sum_le_sum.trans (sum_map_le_of_subperm _ hsub)

/-- **The text of a query is no heavier than that of a query that it is part of.** -/
theorem weight_le (h : s.IsPartOf r e s' r' e') (hfair : IsFair scale) :
    weight scale (r.sourceText (s.synonymsFor r e)) ≤
      weight scale (r'.sourceText (s'.synonymsFor r' e')) := by
  have hrequired := sum_keptTerms_le (fun t => weight scale (assertionText true t)) h.required
  have hexcluded := sum_keptTerms_le (fun t => weight scale (assertionText false t)) h.excluded
  have hbody := h.weight_bodyText_le hfair
  simp only [Request.sourceText, weight_append, weight_flatMap]
  omega

end Settings.IsPartOf

/-! ## 4. Estimates -/

/-- A scale on which digits are what they are to all: they weigh the same as one another. -/
theorem isFair_of_forall {scale : Char → Nat}
    (h : ∀ n < 58, 48 ≤ n → scale (Char.ofNat n) = scale '0') : IsFair scale := by
  intro c hc
  rw [Char.isDigit, Bool.and_eq_true, decide_eq_true_eq, decide_eq_true_eq] at hc
  have hlow : 48 ≤ c.toNat := hc.1
  have hhigh : c.toNat ≤ 57 := hc.2
  rw [← Char.ofNat_toNat c]
  exact h c.toNat (by omega) hlow

namespace Cost

/-- What a character adds to the cost of a text, in tenths. -/
def scale (c : Char) : Nat :=
  (if isQuantifier c then 100 else 0) + (if c = '(' then 50 else 0) + c.utf8Size

theorem isFair_scale : IsFair scale :=
  isFair_of_forall (by decide)

/-- All but the assertions is counted character by character. -/
theorem tenths_eq (cs : List Char) : tenths cs = weight scale cs + 150 * assertions cs := by
  have hcount : weight scale cs = 100 * cs.countP isQuantifier + 50 * cs.count '(' + byteLength cs := by
    induction cs with
    | nil => rfl
    | cons c cs ih =>
      have hbytes : byteLength (c :: cs) = c.utf8Size + byteLength cs := rfl
      rw [weight_cons, ih, hbytes, List.countP_cons, List.count_cons, scale]
      simp only [beq_iff_eq]
      split <;> split <;> omega
  rw [tenths, hcount]
  omega

end Cost

/-- How many characters of a kind there are is a weight, too. -/
theorem countP_eq_weight (p : Char → Bool) (cs : List Char) :
    cs.countP p = weight (fun c => if p c then 1 else 0) cs := by
  induction cs with
  | nil => rfl
  | cons c cs ih => rw [List.countP_cons, weight_cons, ih, Nat.add_comm]

/-- How grave a warning is. -/
def gravity : Option Warning → Nat
  | none => 0
  | some .broad => 1
  | some .extreme => 2

namespace Settings

theorem gravity_warningFor (s : Settings) (cost : Nat) (volume : Volume) :
    gravity (s.warningFor cost volume) = if 3 ≤ volume.rank then 2
      else if 2 ≤ volume.rank ∨ s.warningThreshold.toNat < cost then 1 else 0 := by
  rw [warningFor]
  by_cases hcost : s.warningThreshold.toNat < cost <;>
    cases volume <;> simp [hcost, gravity, Volume.needsWarning, Volume.rank]

/-- With a cost and a volume that are not lower, the warning is no less grave. -/
theorem gravity_warningFor_le {s s' : Settings} {cost cost' : Nat} {volume volume' : Volume}
    (hthreshold : s'.warningThreshold = s.warningThreshold) (hcost : cost ≤ cost')
    (hvolume : volume ≤ volume') :
    gravity (s.warningFor cost volume) ≤ gravity (s'.warningFor cost' volume') := by
  have hrank : volume.rank ≤ volume'.rank := hvolume
  rw [gravity_warningFor, gravity_warningFor, hthreshold]
  split
  · rw [if_pos (by omega)]
  · split
    · split
      · decide
      · rw [if_pos (by omega)]
    · exact Nat.zero_le _

end Settings

namespace Settings.IsPartOf

variable {s s' : Settings} {r r' : Request} {e e' : Option Expansion}

theorem cost_le (h : s.IsPartOf r e s' r' e') :
    cost (r.pattern (s.synonymsFor r e)).source ≤ cost (r'.pattern (s'.synonymsFor r' e')).source := by
  have hweight := h.weight_le Cost.isFair_scale
  have hrequired := h.required.countP_le fun t => !isBlankText t
  have hexcluded := h.excluded.countP_le fun t => !isBlankText t
  rw [cost, cost, Cost.tenths_eq, Cost.tenths_eq, Cost.assertions, Cost.assertions,
    Request.occurrences_required, Request.occurrences_required, Request.occurrences_excluded,
    Request.occurrences_excluded, Request.toList_source, Request.toList_source]
  omega

theorem hasTerm (h : s.IsPartOf r e s' r' e') (hterm : r.HasTerm) : r'.HasTerm := by
  obtain ⟨t, ht, hblank⟩ := hterm
  exact ⟨t, (h.required.append h.excluded).subset ht, hblank⟩

theorem volume_le (h : s.IsPartOf r e s' r' e') :
    estimateVolume (r.pattern (s.synonymsFor r e)).source r.text ≤
      estimateVolume (r'.pattern (s'.synonymsFor r' e')).source r'.text := by
  have hsame : ∀ {c : Prop} [Decidable c] {v a b : Volume}, a ≤ b →
      (if c then v else a) ≤ if c then v else b := by
    intro c _ v a b hab
    split
    · exact Nat.le_refl _
    · exact hab
  have hmarks : (r.pattern (s.synonymsFor r e)).source.toList.count '?' ≤
      (r'.pattern (s'.synonymsFor r' e')).source.toList.count '?' := by
    rw [Request.toList_source, Request.toList_source, List.count_eq_countP, List.count_eq_countP,
      countP_eq_weight, countP_eq_weight]
    exact h.weight_le (isFair_of_forall (by decide))
  rw [Request.estimateVolume_source, Request.estimateVolume_source, Request.volumeWith,
    Request.volumeWith, h.text]
  -- the text decides first, and it is the same
  refine hsame (hsame (hsame (hsame ?_)))
  show Volume.rank _ ≤ Volume.rank _
  by_cases hterm : r'.HasTerm
  · rw [if_pos hterm]
    split
    · exact Nat.le_refl _
    · split <;> decide
  · rw [if_neg hterm, if_neg (mt h.hasTerm hterm)]
    split
    · rw [if_pos (by omega)]
    · exact Nat.zero_le _

theorem hasInput (h : s.IsPartOf r e s' r' e') : r'.hasInput = r.hasInput := by
  rw [Bool.eq_iff_iff, Request.hasInput_iff, Request.hasInput_iff, h.text, ne_eq, ne_eq,
    h.usableRules_eq_nil_iff]

/-- **A query is no less risky than one that is part of it**, if there is a query. -/
theorem isTooLarge_or_risk_le {q : CompiledQuery} (h : s.IsPartOf r e s' r' e')
    (hq : (s.compile r e).result = .ok q) : (s'.compile r' e').IsTooLarge ∨
      ∃ q', (s'.compile r' e').result = .ok q' ∧ q.cost ≤ q'.cost ∧ q.volume ≤ q'.volume ∧
        gravity q.warning ≤ gravity q'.warning := by
  have hinput : r'.hasInput = true := h.hasInput.trans (compile_eq_ok_iff.1 hq).1
  cases hfits : (r'.pattern (s'.synonymsFor r' e')).fits s'.sizeLimit with
  | false => exact Or.inl (isTooLarge_iff.2 ⟨hinput, hfits⟩)
  | true =>
    have hq' := compile_of_fits hinput hfits
    have hcost := h.cost_le
    have hvolume := h.volume_le
    rw [← pattern_of_compile hq, ← pattern_of_compile hq'] at hcost hvolume
    rw [← cost_of_compile hq, ← cost_of_compile hq'] at hcost
    rw [← volume_of_compile hq, ← volume_of_compile hq'] at hvolume
    refine Or.inr ⟨_, hq', hcost, hvolume, ?_⟩
    rw [warning_of_compile hq, warning_of_compile hq']
    exact gravity_warningFor_le h.threshold hcost hvolume

end Settings.IsPartOf

end VerseQuery
