/-
# The risk of a query

The volume of results is estimated from the text of a query, and with its cost decides about a
warning.  Since no sign comes about by accident in that text, the estimates depend on what was asked
for, and not on the letters it was asked for with (`risk_of_compile`).
-/
import VerseQuery.Proofs.Signs

namespace VerseQuery

open Text

/-! ## 1. The volume, as the request says it -/

/-- As many terms are kept as are not blank. -/
theorem length_keptTerms (terms : List String) :
    (keptTerms terms).length = terms.countP fun t => !isBlankText t := by
  have hkept : ((· != "") ∘ trim : String → Bool) = fun t => !isBlankText t := by
    funext t
    rw [Bool.eq_iff_iff, Function.comp_apply, bne_iff_ne, Bool.not_eq_true', trim_ne_empty_iff]
  rw [keptTerms, ← List.countP_eq_length_filter, List.countP_map, hkept]

namespace Request

/-- A word must occur or must not. -/
def HasTerm (r : Request) : Prop :=
  ∃ t ∈ r.required ++ r.excluded, isBlankText t = false

instance (r : Request) : Decidable r.HasTerm :=
  inferInstanceAs (Decidable (∃ t ∈ r.required ++ r.excluded, isBlankText t = false))

/-- The estimate of volume by what was asked for, with so many question marks in the text. -/
def volumeWith (r : Request) (marks : Nat) : Volume :=
  if (trim r.text).length = 0 then .extreme
  else if (trim r.text).length = 1 then .high
  else if (trim r.text).length = 2 then .moderate
  else if lower (trim r.text) ∈ stopWords then .extreme
  else if r.HasTerm then .high
  else if 3 < marks then .moderate
  else .safe

theorem hasTerm_iff {r : Request} :
    r.HasTerm ↔ 0 < (keptTerms r.required).length + (keptTerms r.excluded).length := by
  rw [length_keptTerms, length_keptTerms, ← List.countP_append, List.countP_pos_iff]
  simp only [HasTerm, Bool.not_eq_true']

variable {r : Request} {synonyms : List String}

/-- Any characters are repeated in the text of a query just if it has a term. -/
theorem infix_source_iff : (['.', '*'] <:+: (r.pattern synonyms).source.toList ∨
    ['.', '+'] <:+: (r.pattern synonyms).source.toList) ↔ r.HasTerm := by
  have hstar : occurrences ['.', '*'] (r.pattern synonyms).source.toList =
      (keptTerms r.required).length * 1 + (keptTerms r.excluded).length * 1 :=
    occurrences_source (t := .take .any .star) (by decide)
  have hplus : occurrences ['.', '+'] (r.pattern synonyms).source.toList =
      (keptTerms r.required).length * 0 + (keptTerms r.excluded).length * 0 :=
    occurrences_source (t := .take .any .plus) (by decide)
  rw [← occurrences_pos_iff, ← occurrences_pos_iff, hstar, hplus, hasTerm_iff]
  omega

/-- Each word that must occur brings one assertion to the text. -/
theorem occurrences_required : occurrences ['(', '?', '='] (r.pattern synonyms).source.toList
    = r.required.countP fun t => !isBlankText t := by
  have h : occurrences ['(', '?', '='] (r.pattern synonyms).source.toList =
      (keptTerms r.required).length * 1 + (keptTerms r.excluded).length * 0 :=
    occurrences_source (t := .opening (.ahead true)) (by decide)
  rw [h, Nat.mul_one, Nat.mul_zero, Nat.add_zero, length_keptTerms]

/-- Each word that must not occur brings one, too. -/
theorem occurrences_excluded : occurrences ['(', '?', '!'] (r.pattern synonyms).source.toList
    = r.excluded.countP fun t => !isBlankText t := by
  have h : occurrences ['(', '?', '!'] (r.pattern synonyms).source.toList =
      (keptTerms r.required).length * 0 + (keptTerms r.excluded).length * 1 :=
    occurrences_source (t := .opening (.ahead false)) (by decide)
  rw [h, Nat.mul_zero, Nat.mul_one, Nat.zero_add, length_keptTerms]

/-- The volume is estimated as the request alone says, and the question marks of the text. -/
theorem estimateVolume_source : estimateVolume (r.pattern synonyms).source r.text =
    r.volumeWith ((r.pattern synonyms).source.toList.count '?') := by
  have hrepeats : (0 < occurrences ['.', '*'] (r.pattern synonyms).source.toList ∨
      0 < occurrences ['.', '+'] (r.pattern synonyms).source.toList) ↔ r.HasTerm := by
    rw [occurrences_pos_iff, occurrences_pos_iff, infix_source_iff]
  have hstop : isStopWord r.text = true ↔ lower (trim r.text) ∈ stopWords := List.contains_iff_mem
  rw [estimateVolume, volumeWith]
  split
  · rename_i h
    rw [if_pos h]
  · rename_i h
    rw [if_neg (by omega), if_pos h]
  · rename_i h
    rw [if_neg (by omega), if_neg (by omega), if_pos h]
  · rename_i hzero hone htwo
    rw [if_neg hzero, if_neg hone, if_neg htwo]
    exact if_congr hstop rfl (if_congr hrepeats rfl rfl)

end Request

/-! ## 2. Volume and warning of a query -/

namespace Settings

variable {s : Settings} {r : Request} {e : Option Expansion} {q : CompiledQuery} {cost : Nat}
  {volume : Volume}

theorem cost_of_compile (h : (s.compile r e).result = .ok q) :
    q.cost = VerseQuery.cost q.pattern.source := by
  rw [← (compile_eq_ok_iff.1 h).2.2, assemble]

theorem volume_of_compile (h : (s.compile r e).result = .ok q) :
    q.volume = estimateVolume q.pattern.source r.text := by
  rw [← (compile_eq_ok_iff.1 h).2.2, assemble]

theorem warning_of_compile (h : (s.compile r e).result = .ok q) :
    q.warning = s.warningFor q.cost q.volume := by
  rw [← (compile_eq_ok_iff.1 h).2.2, assemble]

theorem warningFor_eq_extreme_iff :
    s.warningFor cost volume = some .extreme ↔ volume = .extreme := by
  rw [warningFor]
  split
  · rename_i h
    exact iff_of_true rfl h
  · rename_i h
    refine iff_of_false ?_ h
    split <;> simp

theorem warningFor_eq_broad_iff : s.warningFor cost volume = some .broad ↔
    volume ≠ .extreme ∧ (volume = .high ∨ s.warningThreshold.toNat < cost) := by
  rw [warningFor]
  cases volume <;> simp [Volume.needsWarning]

end Settings

/-- **The risk of a query is estimated by what was asked for.**  Its text has an assertion for each
word that must occur and for each that must not, and repeats any characters just if there is one, no
matter what characters the texts of the user are made of.  So the volume follows from the length of
the text, from whether it is one of the commonest words, from whether there is a word that must or
must not occur, and from the number of question marks; and the warning from volume and cost. -/
theorem risk_of_compile {s : Settings} {r : Request} {e : Option Expansion} {q : CompiledQuery}
    (hq : (s.compile r e).result = .ok q) :
    occurrences ['(', '?', '='] q.pattern.source.toList
        = (r.required.countP fun t => !isBlankText t) ∧
      occurrences ['(', '?', '!'] q.pattern.source.toList
        = (r.excluded.countP fun t => !isBlankText t) ∧
      ((['.', '*'] <:+: q.pattern.source.toList ∨ ['.', '+'] <:+: q.pattern.source.toList) ↔
        r.HasTerm) ∧
      q.volume = r.volumeWith (q.pattern.source.toList.count '?') ∧
      (q.warning = some .extreme ↔ q.volume = .extreme) ∧
      (q.warning = some .broad ↔ q.volume ≠ .extreme ∧
        (q.volume = .high ∨ s.warningThreshold.toNat < q.cost)) := by
  rw [Settings.warning_of_compile hq, Settings.volume_of_compile hq, Settings.pattern_of_compile hq]
  exact ⟨Request.occurrences_required, Request.occurrences_excluded, Request.infix_source_iff,
    Request.estimateVolume_source, Settings.warningFor_eq_extreme_iff,
    Settings.warningFor_eq_broad_iff⟩

/-- A search for what looks like an assertion, where a synonym and an excluded word do too. -/
def forgedRequest : Request where
  text := " (?=.* "
  synonyms := true
  excluded := ["(?!.+", " "]

def forgedSynonyms : Expansion := ⟨[⟨"(?=.*", ["(?=.+)"]⟩]⟩

/-- It has one assertion only, that on the excluded word. -/
theorem risk_of_compile_forged : ∃ q,
    (Settings.compile {} forgedRequest (some forgedSynonyms)).result = .ok q ∧
      q.pattern.source =
        "(?!.*\\b\\(\\?!\\.\\+\\b)(?:\\(\\?=\\.\\*|\\(\\?=\\.\\+\\))" ∧
      occurrences ['(', '?', '='] q.pattern.source.toList = 0 ∧
      occurrences ['(', '?', '!'] q.pattern.source.toList = 1 ∧
      q.volume = .high ∧ q.warning = some .broad := by
  have hq := Settings.compile_of_fits (s := {}) (r := forgedRequest) (e := some forgedSynonyms)
    (by decide +kernel) (by decide +kernel)
  obtain ⟨hrequired, hexcluded, -, hvolume, -, hwarning⟩ := risk_of_compile hq
  have hhigh : ∀ marks, forgedRequest.volumeWith marks = .high := fun _ => rfl
  rw [hhigh] at hvolume
  exact ⟨_, hq, by decide +kernel, hrequired.trans (by decide), hexcluded.trans (by decide),
    hvolume, hwarning.2 ⟨by rw [hvolume]; decide, Or.inl hvolume⟩⟩

end VerseQuery
