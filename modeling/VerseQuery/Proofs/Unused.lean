/-
# What does not matter

A request has parts that a search may have no use for.  If there are rules to search for, they come
before the text, and then neither the text nor what belongs to it, the mode, the plurals and the
synonyms, is searched for; the scope and the note on exact phrases have no part in the pattern at
all; and synonyms count only if they are wanted.

What is of no use is still at hand while the query is made, and the text of a request with rules is
looked at after all: the estimate of volume depends on it, and so does the warning.
`Settings.result_of_sameSearch` says that this is all that depends on it.
-/
import VerseQuery.Proofs.Consultation
import VerseQuery.Proofs.Descriptions
import VerseQuery.Proofs.NormalForm
import VerseQuery.Proofs.Refusals
import VerseQuery.Proofs.Risk

namespace VerseQuery

open Text

/-! ## 1. Searches for the same rules -/

/-- The two requests search for the same rules, with the same constraints and the same regard for
case. -/
structure Request.SameSearch (r r' : Request) : Prop where
  rules : r'.usableRules = r.usableRules
  required : keptTerms r'.required = keptTerms r.required
  excluded : keptTerms r'.excluded = keptTerms r.excluded
  ignoreCase : r'.ignoreCase = r.ignoreCase

namespace Request.SameSearch

variable {r r' : Request}

theorem hasInput (h : r.SameSearch r') (hrules : r.usableRules ≠ []) : r'.hasInput = true :=
  hasInput_iff.2 (Or.inr (h.rules ▸ hrules))

/-- Neither the texts nor the synonyms have a part in the pattern. -/
theorem pattern_eq (h : r.SameSearch r') (hrules : r.usableRules ≠ [])
    (synonyms synonyms' : List String) : r'.pattern synonyms' = r.pattern synonyms := by
  have hrules' : r'.usableRules ≠ [] := h.rules ▸ hrules
  have hwords : Constraints.ofTerms r'.required r'.excluded
      = Constraints.ofTerms r.required r.excluded := by
    simp only [Constraints.ofTerms, Constraints.wordPatterns, h.required, h.excluded]
  unfold Request.pattern
  rw [hwords, body_of_rules hrules, body_of_rules hrules', h.rules, flags, flags, h.ignoreCase]

/-- Nor have they one in the description. -/
theorem describe_eq (h : r.SameSearch r') (hrules : r.usableRules ≠ []) (n m : Nat) :
    r'.describe m = r.describe n := by
  have hrules' : r'.usableRules ≠ [] := h.rules ▸ hrules
  rw [describe, describe, clauses_of_rules hrules, clauses_of_rules hrules', h.rules]
  unfold Description.termClause
  rw [h.required, h.excluded]

end Request.SameSearch

namespace Settings

variable {s : Settings} {r r' : Request}

/-- The query with what depends on the text and the scope of a request taken from another one. -/
def adapt (s : Settings) (r : Request) (q : CompiledQuery) : CompiledQuery :=
  let volume := estimateVolume q.pattern.source (trim r.text)
  { q with volume, warning := s.warningFor q.cost volume, scope := r.scope }

/-- The pattern, the description and the cost stay what they are. -/
theorem adapt_keeps (q : CompiledQuery) : (s.adapt r q).pattern = q.pattern ∧
    (s.adapt r q).description = q.description ∧ (s.adapt r q).cost = q.cost ∧
      (s.adapt r q).scope = r.scope := by
  simp only [adapt, and_self]

theorem volume_adapt (q : CompiledQuery) :
    (s.adapt r q).volume = estimateVolume q.pattern.source (trim r.text) := by
  rw [adapt]

theorem warning_adapt (q : CompiledQuery) :
    (s.adapt r q).warning = s.warningFor q.cost (s.adapt r q).volume := by
  rw [adapt]

theorem assemble_of_sameSearch (h : r.SameSearch r') (hrules : r.usableRules ≠ [])
    (synonyms synonyms' : List String) :
    s.assemble r' synonyms' = s.adapt r' (s.assemble r synonyms) := by
  have hvolume := fun source => estimateVolume_trim source r'.text
  simp only [assemble, adapt, hvolume, h.pattern_eq hrules synonyms synonyms',
    h.describe_eq hrules synonyms.length synonyms'.length]

/-- **Two searches for the same rules have one outcome**, but for the estimate of volume, the
warning and the scope. -/
theorem result_of_sameSearch (h : r.SameSearch r') (hrules : r.usableRules ≠ [])
    (e e' : Option Expansion) :
    (s.compile r' e').result = (s.compile r e).result.map (s.adapt r') := by
  have hpattern := h.pattern_eq hrules (s.synonymsFor r e) (s.synonymsFor r' e')
  have hassemble := assemble_of_sameSearch (s := s) h hrules (s.synonymsFor r e)
    (s.synonymsFor r' e')
  have hinput : r.hasInput = true := Request.hasInput_iff.2 (Or.inr hrules)
  cases hfits : (r.pattern (s.synonymsFor r e)).fits s.sizeLimit with
  | true =>
    rw [compile_of_fits hinput hfits, compile_of_fits (h.hasInput hrules) (hpattern ▸ hfits),
      hassemble]
    rfl
  | false =>
    rw [result_of_not_fits hinput hfits,
      result_of_not_fits (h.hasInput hrules) (hpattern ▸ hfits), hpattern]
    rfl

/-! ## 2. Parts that no search has a use for -/

/-- Synonyms that are not wanted do not count. -/
theorem compile_of_synonyms_eq_false (h : r.synonyms = false) (e e' : Option Expansion) :
    s.compile r e = s.compile r e' := by
  have hnone : ∀ e, s.synonymsFor r e = [] := by
    intro e
    cases e with
    | none => rfl
    | some known => rw [synonymsFor, h]; rfl
  exact compile_congr (by rw [hnone, hnone])

/-- The scope is handed on, and has no other part in the outcome; what is noted on exact phrases has
none at all. -/
theorem compile_with_scope (s : Settings) (r : Request) (e : Option Expansion) (scope : Scope)
    (exact : Bool) : s.compile { r with scope := scope, exactPhrase := exact } e =
      ⟨(s.compile r e).result.map fun q => { q with scope := scope }, (s.compile r e).events⟩ := by
  have hsynonyms : s.synonymsFor { r with scope := scope, exactPhrase := exact } e
      = s.synonymsFor r e := by
    cases e <;> rfl
  have hpattern : ∀ synonyms,
      Request.pattern { r with scope := scope, exactPhrase := exact } synonyms
        = r.pattern synonyms := fun _ => rfl
  have hdescribe : ∀ n, Request.describe { r with scope := scope, exactPhrase := exact } n
      = r.describe n := fun _ => rfl
  have hassemble : ∀ synonyms, s.assemble { r with scope := scope, exactPhrase := exact } synonyms
      = { s.assemble r synonyms with scope := scope } := by
    intro synonyms
    simp only [assemble, hpattern, hdescribe]
  have hinput : Request.hasInput { r with scope := scope, exactPhrase := exact } = r.hasInput := rfl
  unfold compile
  dsimp only
  rw [hsynonyms, hassemble, hinput]
  generalize s.assemble r (s.synonymsFor r e) = q
  split
  · split
    · rfl
    · rfl
  · rfl

end Settings

/-! ## 3. The result -/

/-- **What does not matter to a search does not show in its outcome.**  Two searches for the same
rules are refused together, or lead to queries with one pattern, one description and one cost; these
differ in the estimate of volume and in the warning, which depend on the trimmed texts.  Whatever is
searched for, another scope is handed on and changes nothing else, a note on exact phrases changes
nothing, and nor do synonyms that are not wanted. -/
theorem unused_does_not_matter (s : Settings) :
    (∀ r r' e e', r.usableRules ≠ [] → r.SameSearch r' →
      (∀ error, (s.compile r e).result = .error error → (s.compile r' e').result = .error error) ∧
      ∀ q, (s.compile r e).result = .ok q → ∃ q', (s.compile r' e').result = .ok q' ∧
        q'.pattern = q.pattern ∧ q'.description = q.description ∧ q'.cost = q.cost ∧
        q'.scope = r'.scope ∧ q'.volume = estimateVolume q.pattern.source (trim r'.text) ∧
        q'.warning = s.warningFor q.cost q'.volume ∧
        (trim r'.text = trim r.text → q'.volume = q.volume ∧ q'.warning = q.warning)) ∧
    (∀ r e scope exact, s.compile { r with scope := scope, exactPhrase := exact } e =
      ⟨(s.compile r e).result.map fun q => { q with scope := scope }, (s.compile r e).events⟩) ∧
    (∀ r e e', r.synonyms = false → s.compile r e = s.compile r e') := by
  refine ⟨fun r r' e e' hrules h => ?_, s.compile_with_scope,
    fun r e e' hoff => Settings.compile_of_synonyms_eq_false hoff e e'⟩
  have hresult := Settings.result_of_sameSearch (s := s) h hrules e e'
  refine ⟨fun error herror => ?_, fun q hq => ?_⟩
  · rw [hresult, herror]
    rfl
  · rw [hq] at hresult
    have hwarning := Settings.warning_of_compile hq
    have hvolume : q.volume = estimateVolume q.pattern.source (trim r.text) :=
      (Settings.volume_of_compile hq).trans (estimateVolume_trim _ _).symm
    obtain ⟨hpattern, hdescription, hcost, hscope⟩ := s.adapt_keeps (r := r') q
    refine ⟨s.adapt r' q, hresult, hpattern, hdescription, hcost, hscope,
      Settings.volume_adapt q, Settings.warning_adapt q, fun htext => ?_⟩
    have hsame : (s.adapt r' q).volume = q.volume := by
      rw [Settings.volume_adapt, hvolume, htext]
    exact ⟨hsame, by rw [Settings.warning_adapt, hsame, hwarning]⟩

/-- A search for a pair of words. -/
def plainRequest : Request where
  required := ["love"]
  proximity := [⟨"fear", "not", 3⟩]

/-- The same with all that it has no use for, and with more blanks. -/
def ornateRequest : Request where
  text := " the "
  mode := .wholeWord
  exactPhrase := true
  plurals := true
  synonyms := true
  synonymCap := some 2
  required := [" ", "love "]
  proximity := [⟨"", "hope", 1⟩, ⟨" fear", "not", 3⟩]

/-- The word `the` is not searched for, but it is warned of. -/
theorem unused_does_not_matter_fear : plainRequest.SameSearch ornateRequest ∧ ∃ q q',
    (Settings.compile {} plainRequest none).result = .ok q ∧
      (Settings.compile {} ornateRequest (some ⟨[⟨"the", ["a"]⟩]⟩)).result = .ok q' ∧
      q'.pattern = q.pattern ∧ q'.description = q.description ∧ q'.cost = q.cost ∧
      q.description = "\"fear\" within 3 words of \"not\", must contain \"love\"" ∧
      q'.volume = .extreme ∧ q'.warning = some .extreme := by
  have hsame : plainRequest.SameSearch ornateRequest :=
    ⟨by decide +kernel, by decide +kernel, by decide +kernel, rfl⟩
  have hq := Settings.compile_of_fits (s := {}) (r := plainRequest) (e := none)
    (by decide) (by decide +kernel)
  obtain ⟨-, hcompiled⟩ := (unused_does_not_matter {}).1 plainRequest ornateRequest none
    (some ⟨[⟨"the", ["a"]⟩]⟩) (by decide) hsame
  obtain ⟨q', hq', hpattern, hdescription, hcost, -, hvolume, hwarning, -⟩ := hcompiled _ hq
  have hextreme : q'.volume = .extreme := hvolume.trans (by decide +kernel)
  refine ⟨hsame, _, q', hq, hq', hpattern, hdescription, hcost, by decide +kernel, hextreme, ?_⟩
  rw [hwarning, hextreme]
  rfl

end VerseQuery
