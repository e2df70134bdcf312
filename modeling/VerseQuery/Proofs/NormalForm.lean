/-
# Requests in normal form

What a user writes is trimmed, blank terms and rules of no use are passed over, and distances are
brought within their bounds.  This is done in many places on the way to a query: where it is asked
whether there is anything to search for, in the body, in the constraints, in the description, among
the synonyms and in the estimate of volume.  None of them forgets it, and none does it in another
way: a request can be brought into normal form beforehand, and the outcome is the same
(`compile_normal`).

`Request.IsNormal` says of a request that nothing in it is left to be done.  The normal form of a
request is such a one (`Request.isNormal_normal`), and such a one is its own normal form
(`Request.IsNormal.normal_eq`), so once is enough.
-/
import VerseQuery.Proofs.WordPairs

namespace VerseQuery

open Text

/-! ## 1. Normal forms -/

/-- The rule is of use, its words are trimmed and its distance is within the bounds. -/
structure ProximityRule.IsNormal (rule : ProximityRule) : Prop where
  usable : rule.isUsable = true
  first : trim rule.first = rule.first
  second : trim rule.second = rule.second
  distance : 1 ≤ rule.maxDistance.toInt ∧ rule.maxDistance.toInt ≤ 30

/-- The text and all the terms are trimmed, no term is blank, and the rules are in normal form. -/
structure Request.IsNormal (r : Request) : Prop where
  text : trim r.text = r.text
  required : ∀ t ∈ r.required, trim t = t ∧ isBlankText t = false
  excluded : ∀ t ∈ r.excluded, trim t = t ∧ isBlankText t = false
  proximity : ∀ rule ∈ r.proximity, rule.IsNormal

namespace ProximityRule

variable {rule : ProximityRule}

theorem isUsable_normal (rule : ProximityRule) : rule.normal.isUsable = rule.isUsable := by
  rw [isUsable, isUsable, normal, isBlankText_trim, isBlankText_trim]

theorem isNormal_normal (h : rule.isUsable = true) : rule.normal.IsNormal where
  usable := by rw [isUsable_normal, h]
  first := trim_trim rule.first
  second := trim_trim rule.second
  distance := by
    rw [normal, toInt_clampDistance]
    omega

/-- A distance within the bounds stays as it is. -/
theorem IsNormal.normal_eq (h : rule.IsNormal) : rule.normal = rule := by
  have hdistance : clampDistance rule.maxDistance = rule.maxDistance := by
    rw [← Int64.toInt_inj, toInt_clampDistance]
    have hbounds := h.distance
    omega
  rw [normal, h.first, h.second, hdistance]

end ProximityRule

/-- Terms that are trimmed and not blank are all kept as they are. -/
theorem keptTerms_eq_self {terms : List String}
    (h : ∀ t ∈ terms, trim t = t ∧ isBlankText t = false) : keptTerms terms = terms := by
  have htrim : terms.map trim = terms :=
    (List.map_congr_left fun t ht => (h t ht).1).trans (List.map_id' terms)
  rw [keptTerms, htrim, List.filter_eq_self]
  intro t ht
  obtain ⟨heq, hblank⟩ := h t ht
  rw [bne_iff_ne, ← heq]
  exact trim_ne_empty_iff.2 hblank

theorem isNormal_of_mem_keptTerms {terms : List String} :
    ∀ t ∈ keptTerms terms, trim t = t ∧ isBlankText t = false := by
  intro t ht
  obtain ⟨given, -, hblank, rfl⟩ := mem_keptTerms.1 ht
  exact ⟨trim_trim given, (isBlankText_trim given).trans hblank⟩

namespace Request

variable {r : Request}

theorem isNormal_normal (r : Request) : r.normal.IsNormal where
  text := trim_trim r.text
  required := isNormal_of_mem_keptTerms
  excluded := isNormal_of_mem_keptTerms
  proximity rule hrule := by
    obtain ⟨given, -, husable, rfl⟩ := mem_usableRules.1 hrule
    exact ProximityRule.isNormal_normal husable

/-- Rules in normal form are all of use, and are searched for as they are. -/
theorem IsNormal.usableRules_eq (h : r.IsNormal) : r.usableRules = r.proximity := by
  have hfilter : r.proximity.filter (·.isUsable) = r.proximity :=
    List.filter_eq_self.2 fun rule hrule => (h.proximity rule hrule).usable
  rw [usableRules, hfilter]
  exact (List.map_congr_left fun rule hrule => (h.proximity rule hrule).normal_eq).trans
    (List.map_id' r.proximity)

/-- **In a request in normal form nothing is left to be done.** -/
theorem IsNormal.normal_eq (h : r.IsNormal) : r.normal = r := by
  rw [normal, h.text, keptTerms_eq_self h.required, keptTerms_eq_self h.excluded, h.usableRules_eq]

/-! ## 2. What is searched for -/

theorem usableRules_normal (r : Request) : r.normal.usableRules = r.usableRules :=
  (isNormal_normal r).usableRules_eq

theorem keptTerms_required_normal (r : Request) :
    keptTerms r.normal.required = keptTerms r.required :=
  keptTerms_eq_self (isNormal_normal r).required

theorem keptTerms_excluded_normal (r : Request) :
    keptTerms r.normal.excluded = keptTerms r.excluded :=
  keptTerms_eq_self (isNormal_normal r).excluded

theorem trim_text_normal (r : Request) : trim r.normal.text = trim r.text :=
  trim_trim r.text

theorem hasInput_normal (r : Request) : r.normal.hasInput = r.hasInput := by
  rw [Bool.eq_iff_iff, hasInput_iff, hasInput_iff, usableRules_normal, normal, isBlankText_trim]

variable {synonyms : List String}

theorem pattern_normal (r : Request) : r.normal.pattern synonyms = r.pattern synonyms := by
  have hbody : r.normal.body synonyms = r.body synonyms := by
    rw [body, body, usableRules_normal, trim_text_normal]
    rfl
  have hconstraints : Constraints.ofTerms r.normal.required r.normal.excluded
      = Constraints.ofTerms r.required r.excluded := by
    rw [Constraints.ofTerms, Constraints.ofTerms, Constraints.wordPatterns,
      Constraints.wordPatterns, keptTerms_required_normal, keptTerms_excluded_normal]
    rfl
  rw [pattern, pattern, hbody, hconstraints]
  rfl

theorem describe_normal (r : Request) (count : Nat) : r.normal.describe count = r.describe count := by
  rw [describe, describe, clauses, clauses, Description.termClause, Description.termClause,
    keptTerms_required_normal, keptTerms_excluded_normal, usableRules_normal, trim_text_normal]
  rfl

end Request

/-- The estimate looks at the trimmed text only. -/
theorem estimateVolume_trim (source text : String) :
    estimateVolume source (trim text) = estimateVolume source text := by
  have hstop : isStopWord (trim text) = isStopWord text := by
    rw [isStopWord, isStopWord, Text.normal, Text.normal, trim_trim]
  rw [estimateVolume, estimateVolume, trim_trim, hstop]

namespace Settings

variable {s : Settings} {r : Request} {e : Option Expansion}

theorem synonymsFor_normal : s.synonymsFor r.normal e = s.synonymsFor r e := by
  cases e with
  | none => rfl
  | some known =>
    rw [synonymsFor, synonymsFor, Request.trim_text_normal]
    rfl

theorem assemble_normal {synonyms : List String} :
    s.assemble r.normal synonyms = s.assemble r synonyms := by
  have hvolume : ∀ source, estimateVolume source r.normal.text = estimateVolume source r.text :=
    fun source => estimateVolume_trim source r.text
  simp only [assemble, Request.pattern_normal, Request.describe_normal, hvolume]
  rfl

end Settings

/-! ## 3. The result -/

/-- **Only what counts in a request bears on what comes of it.**  Brought into normal form, it leads
to the same error, or to the same query with the same reports; and once is enough. -/
theorem compile_normal (s : Settings) (r : Request) (e : Option Expansion) :
    s.compile r.normal e = s.compile r e ∧ r.normal.IsNormal ∧ r.normal.normal = r.normal := by
  refine ⟨?_, r.isNormal_normal, r.isNormal_normal.normal_eq⟩
  rw [Settings.compile, Settings.compile, Request.hasInput_normal, Settings.synonymsFor_normal,
    Settings.assemble_normal]

end VerseQuery
