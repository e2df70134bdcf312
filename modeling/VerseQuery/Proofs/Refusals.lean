/-
# When a request is refused

Compiling comes out in one of three ways (`Settings.compile_cases`): there is nothing to search for,
or one of the machines would be too large, or there is a query.  What is reported, and what the
limit has to do with it, is read off these three.

A machine is made from a text, and a text that is not a pattern could not be made into one at all.
There are no such texts here: each is put together from what the user wrote in such a way that it
reads back as a pattern (`Request.read?_partTexts`), so it is the size alone that a machine is
refused for (`compile_refuses_only`).
-/
import VerseQuery.Proofs.SourceText

namespace VerseQuery

open Text

/-! ## 1. The texts of the machines -/

namespace Request

variable {r : Request} {synonyms : List String}

/-- The texts that machines are made from, one for what is searched for and one for each word that
must or must not occur. -/
def partTexts (r : Request) (synonyms : List String) : List (List Char) :=
  r.bodyText synonyms :: r.terms.map wordText

theorem mem_partTexts {cs : List Char} :
    cs ∈ r.partTexts synonyms ↔ ∃ p ∈ (r.pattern synonyms).parts, p.chars = cs := by
  rw [partTexts, ← chars_parts, List.mem_map]

/-- **Each of the texts is well formed and reads back as a pattern**, whatever the user wrote. -/
theorem read?_partTexts {cs : List Char} (h : cs ∈ r.partTexts synonyms) :
    BalancedText cs ∧ ∃ p, Pattern.read? cs = some p := by
  obtain ⟨p, -, rfl⟩ := mem_partTexts.1 h
  exact ⟨p.balancedText_chars, p, p.read?_chars⟩

end Request

/-- The text is a pattern, and the machine for it would take more bytes than allowed. -/
def ExceedsLimit (limit : UInt64) (mode : CaseMode) (cs : List Char) : Prop :=
  ∃ p, Pattern.read? cs = some p ∧ ((p.factored mode).form mode).fits limit.toNat = false

/-- The machines do not fit when the text of one of them exceeds the limit. -/
theorem Request.fits_eq_false_iff {r : Request} {synonyms : List String} {limit : UInt64} :
    (r.pattern synonyms).fits limit = false ↔
      ∃ cs ∈ r.partTexts synonyms, ExceedsLimit limit r.flags.caseMode cs := by
  rw [QueryPattern.fits, List.all_eq_false]
  constructor
  · rintro ⟨p, hp, hsize⟩
    exact ⟨p.chars, mem_partTexts.2 ⟨p, hp, rfl⟩, p, p.read?_chars, Bool.not_eq_true _ ▸ hsize⟩
  · rintro ⟨cs, hcs, p, hread, hsize⟩
    obtain ⟨part, hpart, rfl⟩ := mem_partTexts.1 hcs
    rw [Pattern.read?_chars, Option.some.injEq] at hread
    subst hread
    exact ⟨part, hpart, Bool.not_eq_true _ ▸ hsize⟩

/-! ## 2. Three ways to come out -/

/-- There is nothing to search for when the text is blank and each rule has a blank word. -/
theorem Request.hasInput_eq_false_iff {r : Request} : r.hasInput = false ↔
    isBlankText r.text = true ∧
      ∀ rule ∈ r.proximity, isBlankText rule.first = true ∨ isBlankText rule.second = true := by
  rw [← Bool.not_eq_true, hasInput_iff, not_or, Bool.not_eq_false, ne_eq, not_not,
    usableRules_eq_nil_iff]
  simp only [ProximityRule.isUsable, Bool.and_eq_false_iff, Bool.not_eq_false']

namespace Settings

variable {s : Settings} {r : Request} {e : Option Expansion} {q : CompiledQuery}
  {error : QueryError}

/-- The settings with another limit. -/
def withLimit (s : Settings) (limit : UInt64) : Settings :=
  { s with sizeLimit := limit }

/-- **All that compiling can come to.** -/
theorem compile_cases (s : Settings) (r : Request) (e : Option Expansion) :
    (r.hasInput = false ∧ s.compile r e = ⟨.error .emptyQuery, []⟩) ∨
    (r.hasInput = true ∧ (r.pattern (s.synonymsFor r e)).fits s.sizeLimit = false ∧
      s.compile r e =
        ⟨.error (.tooLarge (r.pattern (s.synonymsFor r e)).source s.sizeLimit), []⟩) ∨
    (r.hasInput = true ∧ (r.pattern (s.synonymsFor r e)).fits s.sizeLimit = true ∧
      s.compile r e = ⟨.ok (s.assemble r (s.synonymsFor r e)),
        (s.assemble r (s.synonymsFor r e)).events⟩) := by
  have hpattern : (s.assemble r (s.synonymsFor r e)).pattern = r.pattern (s.synonymsFor r e) := rfl
  unfold compile
  dsimp only
  rw [hpattern]
  split
  · split
    · simp_all
    · simp_all
  · simp_all

theorem result_of_not_fits (hinput : r.hasInput = true)
    (hfits : (r.pattern (s.synonymsFor r e)).fits s.sizeLimit = false) : (s.compile r e).result =
      .error (.tooLarge (r.pattern (s.synonymsFor r e)).source s.sizeLimit) := by
  rcases compile_cases s r e with ⟨hnone, -⟩ | ⟨-, -, hcompile⟩ | ⟨-, hfit, -⟩
  · exact absurd (hinput.symm.trans hnone) (by simp)
  · rw [hcompile]
  · exact absurd (hfit.symm.trans hfits) (by simp)

theorem result_eq_empty_iff :
    (s.compile r e).result = .error .emptyQuery ↔ r.hasInput = false := by
  rcases compile_cases s r e with ⟨hinput, hcompile⟩ | ⟨hinput, -, hcompile⟩ |
    ⟨hinput, -, hcompile⟩ <;> simp [hcompile, hinput]

/-- A request with something to search for is refused for its size only. -/
theorem eq_tooLarge_of_result (h : (s.compile r e).result = .error error)
    (hne : error ≠ .emptyQuery) :
    error = .tooLarge (r.pattern (s.synonymsFor r e)).source s.sizeLimit ∧
      (r.pattern (s.synonymsFor r e)).fits s.sizeLimit = false := by
  rcases compile_cases s r e with ⟨-, hcompile⟩ | ⟨-, hfits, hcompile⟩ | ⟨-, -, hcompile⟩
  · rw [hcompile, Except.error.injEq] at h
    exact absurd h.symm hne
  · rw [hcompile, Except.error.injEq] at h
    exact ⟨h.symm, hfits⟩
  · rw [hcompile] at h
    exact absurd h (by simp)

/-- Of a request that is refused nothing is reported. -/
theorem events_of_error (h : (s.compile r e).result = .error error) :
    (s.compile r e).events = [] := by
  rcases compile_cases s r e with ⟨-, hcompile⟩ | ⟨-, -, hcompile⟩ | ⟨-, -, hcompile⟩
  · rw [hcompile]
  · rw [hcompile]
  · rw [hcompile] at h
    exact absurd h (by simp)

theorem events_of_ok (h : (s.compile r e).result = .ok q) : (s.compile r e).events = q.events := by
  rcases compile_cases s r e with ⟨-, hcompile⟩ | ⟨-, -, hcompile⟩ | ⟨-, -, hcompile⟩
  · rw [hcompile] at h
    exact absurd h (by simp)
  · rw [hcompile] at h
    exact absurd h (by simp)
  · rw [hcompile, Except.ok.injEq] at h
    rw [hcompile, ← h]

/-! ## 3. Two limits -/

/-- The limit bears on nothing but whether the machines fit. -/
theorem synonymsFor_withLimit (limit : UInt64) :
    (s.withLimit limit).synonymsFor r e = s.synonymsFor r e := by
  cases e <;> rfl

theorem assemble_withLimit (limit : UInt64) (synonyms : List String) :
    (s.withLimit limit).assemble r synonyms = s.assemble r synonyms :=
  rfl

/-- Without anything to search for, or with machines that fit either way, the limit does not count;
or else one of the two outcomes is a refusal. -/
theorem compile_withLimit (s : Settings) (r : Request) (e : Option Expansion) (limit : UInt64) :
    (s.withLimit limit).compile r e = s.compile r e ∨
    ∃ source, (s.compile r e).source? = some source ∧
      ((s.withLimit limit).compile r e).source? = some source ∧
      ((s.compile r e).result = .error (.tooLarge source s.sizeLimit) ∨
        ((s.withLimit limit).compile r e).result = .error (.tooLarge source limit)) := by
  have hsynonyms := synonymsFor_withLimit (s := s) (r := r) (e := e) limit
  have hsource : r.hasInput = true → (s.compile r e).source? = some
      (r.pattern (s.synonymsFor r e)).source ∧ ((s.withLimit limit).compile r e).source? = some
        (r.pattern (s.synonymsFor r e)).source :=
    fun hinput => ⟨source?_compile hinput, hsynonyms ▸ source?_compile hinput⟩
  rcases compile_cases s r e with ⟨hinput, hcompile⟩ | ⟨hinput, -, hcompile⟩ |
    ⟨hinput, -, hcompile⟩
  · left
    rw [hcompile, compile, hinput]
    rfl
  · exact Or.inr ⟨_, (hsource hinput).1, (hsource hinput).2, Or.inl (by rw [hcompile])⟩
  · rcases compile_cases (s.withLimit limit) r e with ⟨hnone, -⟩ | ⟨-, -, hother⟩ | ⟨-, -, hother⟩
    · exact absurd (hinput.symm.trans hnone) (by simp)
    · exact Or.inr ⟨_, (hsource hinput).1, (hsource hinput).2,
        Or.inr (by rw [hother, hsynonyms]; rfl)⟩
    · left
      rw [hcompile, hother, hsynonyms, assemble_withLimit]

end Settings

theorem Form.fits_mono {f : Form} {limit limit' : Nat} (hle : limit ≤ limit')
    (h : f.fits limit = true) : f.fits limit' = true := by
  simp only [fits, Bool.or_eq_true, Bool.and_eq_true, decide_eq_true_eq] at h ⊢
  rcases h with htext | ⟨hforwards, hbackwards⟩
  · exact Or.inl htext
  · exact Or.inr ⟨hforwards.trans hle, hbackwards.trans hle⟩

/-- **A limit that was enough stays enough when it is raised**, and the query is the same. -/
theorem Settings.compile_withLimit_of_le {s : Settings} {r : Request} {e : Option Expansion}
    {q : CompiledQuery} {limit : UInt64} (hle : s.sizeLimit ≤ limit)
    (hq : (s.compile r e).result = .ok q) : (s.withLimit limit).compile r e = s.compile r e := by
  have hraised : (r.pattern (s.synonymsFor r e)).fits limit = true := by
    obtain ⟨-, hfits, -⟩ := compile_eq_ok_iff.1 hq
    rw [QueryPattern.fits, List.all_eq_true] at hfits ⊢
    exact fun p hp => Form.fits_mono (UInt64.le_iff_toNat_le.1 hle) (hfits p hp)
  rcases s.compile_withLimit r e limit with hsame | ⟨source, -, -, hrefused | hrefused⟩
  · exact hsame
  · rw [hq] at hrefused
    exact absurd hrefused (by simp)
  · obtain ⟨-, hlarge⟩ := eq_tooLarge_of_result hrefused (by simp)
    rw [synonymsFor_withLimit] at hlarge
    exact absurd (hraised.symm.trans hlarge) (by simp)

/-! ## 4. The result -/

/-- **A request is refused for two reasons only.**  One is that there is nothing to search for, in
which neither the limit nor the constraints nor the synonyms have a say.  The other is that the
machine for one of the texts would be too large, all of which are well formed.  Nothing is reported
of a request that is refused; of a query it is reported that it was compiled, and then the warning
if there is one.  And a limit decides between the query and its refusal, but not on what the query
is: with another limit the outcome is the same, or one of the two is a refusal of the very text that
the other has. -/
theorem compile_refuses_only (s : Settings) (r : Request) (e : Option Expansion) :
    ((s.compile r e).result = .error .emptyQuery ↔ isBlankText r.text = true ∧
      ∀ rule ∈ r.proximity, isBlankText rule.first = true ∨ isBlankText rule.second = true) ∧
    (∀ cs ∈ r.partTexts (s.synonymsFor r e), BalancedText cs ∧ ∃ p, Pattern.read? cs = some p) ∧
    (∀ error, (s.compile r e).result = .error error →
      (s.compile r e).events = [] ∧ (error = .emptyQuery ∨
        error = .tooLarge (String.ofList (r.sourceText (s.synonymsFor r e))) s.sizeLimit ∧
        ∃ cs ∈ r.partTexts (s.synonymsFor r e), ExceedsLimit s.sizeLimit r.flags.caseMode cs)) ∧
    (∀ q, (s.compile r e).result = .ok q →
      (s.compile r e).events.map (fun event => (event.level, event.message)) =
        (.debug, "Compiled search query") :: q.warning.toList.map fun w => (.warn, w.message)) ∧
    (∀ limit, (s.withLimit limit).compile r e = s.compile r e ∨
      ∃ source, (s.compile r e).source? = some source ∧
        ((s.withLimit limit).compile r e).source? = some source ∧
        ((s.compile r e).result = .error (.tooLarge source s.sizeLimit) ∨
          ((s.withLimit limit).compile r e).result = .error (.tooLarge source limit))) := by
  refine ⟨?_, fun cs => Request.read?_partTexts, fun error herror => ?_, fun q hq => ?_,
    s.compile_withLimit r e⟩
  · rw [Settings.result_eq_empty_iff, Request.hasInput_eq_false_iff]
  · refine ⟨Settings.events_of_error herror, ?_⟩
    by_cases hempty : error = .emptyQuery
    · exact Or.inl hempty
    · obtain ⟨heq, hfits⟩ := Settings.eq_tooLarge_of_result herror hempty
      rw [heq, ← Request.toList_source, String.ofList_toList]
      exact Or.inr ⟨rfl, Request.fits_eq_false_iff.1 hfits⟩
  · rw [Settings.events_of_ok hq]
    unfold CompiledQuery.events
    rw [List.map_cons, List.map_map]
    rfl

/-- Sixteen bytes are too few for a pair of words. -/
example : (Settings.compile { sizeLimit := 16 } (.ofRules [⟨"fear", "not", 30⟩]) none).events = [] ∧
    (Settings.compile { sizeLimit := 16 } (.ofRules [⟨"fear", "not", 30⟩]) none).source? =
      some "\\bfear\\b[^0-9A-Za-z_]+(?:[0-9A-Za-z_]+[^0-9A-Za-z_]+)\x7b0,30\x7d\\bnot\\b" := by
  decide +kernel

end VerseQuery
