/-
# Narrower and wider searches

A request can be changed so that it asks for more, or so that it is content with less.  Words that
must or must not occur make a search narrower; plurals, synonyms, distances and rules make it wider.
The names are kept: a narrower search has no result that the other has not (`Request.Narrows`), and
a wider one loses none (`Settings.Widens`), so long as its machine still fits.

What all ways to widen have in common is `Settings.Extends`: each alternative and each rule is still
there, or one that allows more.
-/
import VerseQuery.Proofs.Expansions
import VerseQuery.Proofs.TextSearch
import VerseQuery.Proofs.WordPairs

namespace VerseQuery

open Text

/-! ## 1. What comes of a request -/

namespace Outcome

/-- There is a query, and the text is a result of it. -/
def Accepts (o : Outcome CompiledQuery) (text : String) : Prop :=
  ∃ q, o.result = .ok q ∧ q.pattern.isMatch text = true

/-- There is no query, for its machine would take more bytes than the settings allow. -/
def IsTooLarge (o : Outcome CompiledQuery) : Prop :=
  ∃ source limit, o.result = .error (.tooLarge source limit)

end Outcome

/-- With fewer parts there is less to fit. -/
theorem QueryPattern.fits_of_subset {p q : QueryPattern} {limit : UInt64}
    (hflags : p.flags = q.flags) (hparts : p.parts ⊆ q.parts) (hfits : q.fits limit = true) :
    p.fits limit = true := by
  rw [QueryPattern.fits, List.all_eq_true] at hfits ⊢
  intro part hpart
  rw [hflags]
  exact hfits part (hparts hpart)

/-- What is searched for stands somewhere in the text. -/
def Request.FoundIn (r : Request) (synonyms : List String) (text : List Char) : Prop :=
  ∃ x m y, text = x ++ m ++ y ∧ (r.body synonyms).Matches r.flags.caseMode x m y

namespace Settings

variable {s s' : Settings} {r r' : Request} {e e' : Option Expansion} {text : String}

/-- **The results of a request**, by what it asks for. -/
theorem accepts_iff : (s.compile r e).Accepts text ↔ r.hasInput = true ∧
    (r.pattern (s.synonymsFor r e)).fits s.sizeLimit = true ∧ r.KeptBy text.toList ∧
      r.FoundIn (s.synonymsFor r e) text.toList := by
  constructor
  · rintro ⟨q, hq, hmatch⟩
    obtain ⟨hinput, hfits, -⟩ := compile_eq_ok_iff.1 hq
    exact ⟨hinput, hfits, (isMatch_iff hq).1 hmatch⟩
  · rintro ⟨hinput, hfits, hmatch⟩
    have hq := compile_of_fits hinput hfits
    exact ⟨_, hq, (isMatch_iff hq).2 hmatch⟩

/-- There is something to search for, but its machine does not fit. -/
theorem isTooLarge_iff : (s.compile r e).IsTooLarge ↔ r.hasInput = true ∧
    (r.pattern (s.synonymsFor r e)).fits s.sizeLimit = false := by
  have hpattern : (s.assemble r (s.synonymsFor r e)).pattern = r.pattern (s.synonymsFor r e) := rfl
  rw [Outcome.IsTooLarge, compile]
  split
  · dsimp only
    split
    · simp_all
    · simp_all
  · simp_all

theorem not_isTooLarge (hfits : (r.pattern (s.synonymsFor r e)).fits s.sizeLimit = true) :
    ¬(s.compile r e).IsTooLarge :=
  fun h => absurd (hfits.symm.trans (isTooLarge_iff.1 h).2) (by decide)

/-- What keeps the constraints and has what is searched for is a result, if there is a query. -/
theorem isTooLarge_or_accepts (hinput : r.hasInput = true) (hkept : r.KeptBy text.toList)
    (hfound : r.FoundIn (s.synonymsFor r e) text.toList) :
    (s.compile r e).IsTooLarge ∨ (s.compile r e).Accepts text := by
  cases hfits : (r.pattern (s.synonymsFor r e)).fits s.sizeLimit with
  | true => exact Or.inr (accepts_iff.2 ⟨hinput, hfits, hkept, hfound⟩)
  | false => exact Or.inl (isTooLarge_iff.2 ⟨hinput, hfits⟩)

end Settings

/-! ## 2. Narrower searches -/

/-- The second request has more words that must occur, or more that must not. -/
inductive Request.Narrows (r : Request) : Request → Prop where
  | requiring (terms : List String) : r.Narrows (r.requiring terms)
  | excluding (terms : List String) : r.Narrows (r.excluding terms)

namespace Request.Narrows

variable {s : Settings} {r r' : Request} {e : Option Expansion} {text : String}

/-- With more words there is more to keep. -/
theorem keptBy {text : List Char} (h : r.Narrows r') (hkept : r'.KeptBy text) : r.KeptBy text := by
  cases h with
  | requiring terms =>
    exact ⟨fun t ht => hkept.required t (List.mem_append_left _ ht), hkept.excluded⟩
  | excluding terms =>
    exact ⟨hkept.required, fun t ht => hkept.excluded t (List.mem_append_left _ ht)⟩

/-- With more words there are more parts to fit. -/
theorem fits {synonyms : List String} {limit : UInt64} (h : r.Narrows r')
    (hfits : (r'.pattern synonyms).fits limit = true) :
    (r.pattern synonyms).fits limit = true := by
  have hmore : ∀ {terms more : List String} {p : Pattern .sequence},
      p ∈ Constraints.wordPatterns terms → p ∈ Constraints.wordPatterns (terms ++ more) := by
    intro terms more p hp
    simp only [Constraints.wordPatterns, keptTerms, List.map_append, List.filter_append,
      List.mem_append]
    exact Or.inl hp
  refine QueryPattern.fits_of_subset (by cases h <;> rfl) (fun p hp => ?_) hfits
  rcases List.mem_cons.1 hp with rfl | hp
  · cases h <;> exact List.mem_cons_self
  · rcases List.mem_append.1 hp with hp | hp
    · refine List.mem_cons_of_mem _ (List.mem_append_left _ ?_)
      cases h with
      | requiring terms => exact hmore hp
      | excluding terms => exact hp
    · refine List.mem_cons_of_mem _ (List.mem_append_right _ ?_)
      cases h with
      | requiring terms => exact hp
      | excluding terms => exact hmore hp

/-- **What a narrower search accepts, the other does.** -/
theorem accepts (h : r.Narrows r') (haccepts : (s.compile r' e).Accepts text) :
    (s.compile r e).Accepts text := by
  obtain ⟨hinput, hfits, hkept, hfound⟩ := Settings.accepts_iff.1 haccepts
  have hsame : r'.hasInput = r.hasInput ∧ s.synonymsFor r' e = s.synonymsFor r e ∧
      r'.FoundIn = r.FoundIn := by
    cases h <;> exact ⟨rfl, rfl, rfl⟩
  rw [hsame.1] at hinput
  rw [hsame.2.1] at hfits hfound
  rw [hsame.2.2] at hfound
  exact Settings.accepts_iff.2 ⟨hinput, h.fits hfits, h.keptBy hkept, hfound⟩

end Request.Narrows

/-! ## 3. Wider searches -/

namespace ProximityRule

variable {rule wide : ProximityRule}

/-- The second rule is about the same words and allows as much between them or more. -/
structure Within (rule wide : ProximityRule) : Prop where
  first : rule.first = wide.first
  second : rule.second = wide.second
  bound : rule.bound ≤ wide.bound

theorem Within.rfl : rule.Within rule :=
  ⟨Eq.refl _, Eq.refl _, Nat.le_refl _⟩

theorem Within.isUsable (h : rule.Within wide) : rule.isUsable = wide.isUsable := by
  rw [ProximityRule.isUsable, ProximityRule.isUsable, h.first, h.second]

/-- A greater distance is a greater bound, or the same one where both are out of bounds. -/
theorem within_of_le {d : Int64} (hd : rule.maxDistance ≤ d) :
    rule.Within { rule with maxDistance := d } := by
  refine ⟨Eq.refl _, Eq.refl _, ?_⟩
  rw [Int64.le_iff_toInt_le] at hd
  simp only [ProximityRule.bound]
  omega

/-- A wider rule joins what the other does. -/
theorem JoinedBy.widen {mode : CaseMode} {x a g b y : List Char} (h : rule.Within wide)
    (hjoin : rule.JoinedBy mode x a g b y) : wide.JoinedBy mode x a g b y where
  first := h.first ▸ hjoin.first
  firstEdges := hjoin.firstEdges
  second := h.second ▸ hjoin.second
  secondEdges := hjoin.secondEdges
  gap := ⟨hjoin.gap.nonempty, hjoin.gap.start, hjoin.gap.stop, hjoin.gap.few.trans h.bound⟩

end ProximityRule

namespace Settings

/-- The ways to make a search wider: to take plurals as well, to know synonyms of one more word, to
take more synonyms of each, to allow a greater distance in a rule, and to add a rule where there is
one of use. -/
inductive Widens (s : Settings) (r : Request) (e : Option Expansion) :
    Settings → Request → Option Expansion → Prop where
  | plurals : s.Widens r e s r.withPlurals e
  | synonymSet {before after : List SynonymSet} (set : SynonymSet)
      (h : (e.getD {}).sets = before ++ after) :
      s.Widens r e s r (some ⟨before ++ set :: after⟩)
  | synonymLimit (perSettings : UInt64) (perRequest : Option UInt64)
      (h : s.synonymLimit r ≤ synonymLimit { s with synonymCap := perSettings }
        { r with synonymCap := perRequest }) :
      s.Widens r e { s with synonymCap := perSettings } { r with synonymCap := perRequest } e
  | distance {before after : List ProximityRule} {rule : ProximityRule} {d : Int64}
      (h : r.proximity = before ++ rule :: after) (hd : rule.maxDistance ≤ d) :
      s.Widens r e s { r with proximity := before ++ { rule with maxDistance := d } :: after } e
  | rule (rule : ProximityRule) (h : ∃ given ∈ r.proximity, given.isUsable = true) :
      s.Widens r e s { r with proximity := r.proximity ++ [rule] } e

/-- What is searched for stays: the constraints and the text are the same, and each alternative and
each rule is still there, or one that allows more. -/
structure Extends (s : Settings) (r : Request) (e : Option Expansion) (s' : Settings)
    (r' : Request) (e' : Option Expansion) : Prop where
  required : r'.required = r.required
  excluded : r'.excluded = r.excluded
  flags : r'.flags = r.flags
  text : r'.text = r.text
  mode : r'.mode = r.mode
  plurals : r.plurals = true → r'.plurals = true
  alternatives : ∀ alt, s.IsAlternative r e alt → s'.IsAlternative r' e' alt
  rules : ∀ rule ∈ r.proximity, ∃ wide ∈ r'.proximity, rule.Within wide
  /-- No rule is the first one of use. -/
  newRules : r.usableRules = [] → r'.usableRules = []

variable {s s' : Settings} {r r' : Request} {e e' : Option Expansion} {text : String}

theorem isAlternative_of_sets {more : Expansion} {alt : String}
    (h : ∀ set ∈ (e.getD {}).sets, set ∈ more.sets) (halt : s.IsAlternative r e alt) :
    s.IsAlternative r (some more) alt := by
  refine halt.imp_right fun ⟨hasked, known, he, hmem⟩ => ⟨hasked, more, rfl, ?_⟩
  obtain ⟨hne, hnew, set, hset, hsynonym⟩ := Expansion.mem_flatten_iff.1 hmem
  rw [he] at h
  exact Expansion.mem_flatten_iff.2 ⟨hne, hnew, set, h set hset, hsynonym⟩

/-- **Each way to make a search wider keeps what is searched for.** -/
theorem Widens.extends (h : s.Widens r e s' r' e') : s.Extends r e s' r' e' := by
  have hrules : ∀ rule ∈ r.proximity, ∃ wide ∈ r.proximity, rule.Within wide :=
    fun rule hrule => ⟨rule, hrule, .rfl⟩
  cases h with
  | plurals => exact ⟨rfl, rfl, rfl, rfl, rfl, fun _ => rfl, fun _ => id, hrules, id⟩
  | synonymSet set h =>
    refine ⟨rfl, rfl, rfl, rfl, rfl, id, fun alt => isAlternative_of_sets fun known hknown => ?_,
      hrules, id⟩
    rw [h] at hknown
    exact List.mem_append.2 ((List.mem_append.1 hknown).imp_right (List.mem_cons_of_mem set))
  | synonymLimit perSettings perRequest h =>
    refine ⟨rfl, rfl, rfl, rfl, rfl, id, fun alt halt => ?_, hrules, id⟩
    refine halt.imp_right fun ⟨hasked, known, he, hmem⟩ => ⟨hasked, known, he, ?_⟩
    obtain ⟨hne, hnew, set, hset, synonym, hsynonym, htrim⟩ := Expansion.mem_flatten_iff.1 hmem
    exact Expansion.mem_flatten_iff.2 ⟨hne, hnew, set, hset, synonym,
      (List.take_sublist_take_left h).subset hsynonym, htrim⟩
  | @distance before after rule d h hd =>
    have hwithin : rule.Within { rule with maxDistance := d } := ProximityRule.within_of_le hd
    refine ⟨rfl, rfl, rfl, rfl, rfl, id, fun _ => id, fun other hother => ?_, fun hnone => ?_⟩
    · rw [h] at hother
      rcases List.mem_append.1 hother with hmem | hmem
      · exact ⟨other, List.mem_append_left _ hmem, .rfl⟩
      · rcases List.mem_cons.1 hmem with rfl | hmem
        · exact ⟨_, List.mem_append_right _ List.mem_cons_self, hwithin⟩
        · exact ⟨other, List.mem_append_right _ (List.mem_cons_of_mem _ hmem), .rfl⟩
    · rw [Request.usableRules_eq_nil_iff, h, List.forall_mem_append, List.forall_mem_cons] at hnone
      refine Request.usableRules_eq_nil_iff.2 (List.forall_mem_append.2 ⟨hnone.1, ?_⟩)
      exact List.forall_mem_cons.2 ⟨hwithin.isUsable ▸ hnone.2.1, hnone.2.2⟩
  | rule rule h =>
    refine ⟨rfl, rfl, rfl, rfl, rfl, id, fun _ => id, fun other hother => ?_, fun hnone => ?_⟩
    · exact ⟨other, List.mem_append_left _ hother, .rfl⟩
    · obtain ⟨given, hgiven, husable⟩ := h
      have hno := Request.usableRules_eq_nil_iff.1 hnone given hgiven
      exact absurd (husable.symm.trans hno) (by decide)

namespace Extends

theorem usableRules_eq_nil_iff (h : s.Extends r e s' r' e') :
    r'.usableRules = [] ↔ r.usableRules = [] := by
  refine ⟨fun hnone => ?_, h.newRules⟩
  rw [Request.usableRules_eq_nil_iff] at hnone ⊢
  intro rule hrule
  obtain ⟨wide, hwide, hwithin⟩ := h.rules rule hrule
  rw [hwithin.isUsable, hnone wide hwide]

theorem hasInput (h : s.Extends r e s' r' e') : r'.hasInput = r.hasInput := by
  rw [Bool.eq_iff_iff, Request.hasInput_iff, Request.hasInput_iff, h.text, ne_eq, ne_eq,
    h.usableRules_eq_nil_iff]

theorem keptBy {text : List Char} (h : s.Extends r e s' r' e') (hkept : r.KeptBy text) :
    r'.KeptBy text := by
  refine ⟨?_, ?_⟩
  · rw [h.required, h.flags]
    exact hkept.required
  · rw [h.excluded, h.flags]
    exact hkept.excluded

/-- What is searched for stands in a text if it did before. -/
theorem foundIn {text : List Char} (h : s.Extends r e s' r' e')
    (hfound : r.FoundIn (s.synonymsFor r e) text) :
    r'.FoundIn (s'.synonymsFor r' e') text := by
  by_cases hrules : r.usableRules = []
  · obtain ⟨x, m, y, htext, ⟨alt, halt, hreads⟩, hplace⟩ :=
      (Request.exists_textBody_iff hrules).1 hfound
    refine (Request.exists_textBody_iff (h.usableRules_eq_nil_iff.2 hrules)).2
      ⟨x, m, y, htext, ⟨alt, ?_, ?_⟩, h.mode ▸ hplace⟩
    · exact mem_synonymsFor.2 (h.alternatives alt (mem_synonymsFor.1 halt))
    · rw [h.flags]
      exact hreads.imp_right (And.imp_left h.plurals)
  · obtain ⟨x, a, g, b, y, htext, rule, hrule, husable, hjoin⟩ :=
      (Request.exists_body_iff_joins hrules).1 hfound
    obtain ⟨wide, hwide, hwithin⟩ := h.rules rule hrule
    refine (Request.exists_body_iff_joins (mt h.usableRules_eq_nil_iff.1 hrules)).2
      ⟨x, a, g, b, y, htext, wide, hwide, hwithin.isUsable ▸ husable, ?_⟩
    rw [h.flags]
    exact hjoin.widen hwithin

/-- **What the other search accepts, a wider one does**, if there is a query. -/
theorem accepts (h : s.Extends r e s' r' e') (haccepts : (s.compile r e).Accepts text) :
    (s'.compile r' e').IsTooLarge ∨ (s'.compile r' e').Accepts text := by
  obtain ⟨hinput, -, hkept, hfound⟩ := accepts_iff.1 haccepts
  exact isTooLarge_or_accepts (h.hasInput.trans hinput) (h.keptBy hkept) (h.foundIn hfound)

end Extends

end Settings

/-! ## 4. The result -/

/-- **Searches get narrower and wider as the names say.**  With more words that must or must not
occur no text becomes a result.  With plurals, synonyms of more words or more of each, a greater
distance in a rule, or one more rule, no result is lost, unless the query gets too large for the
settings and there is none. -/
theorem narrows_and_widens (s : Settings) (r : Request) (e : Option Expansion) (text : String) :
    (∀ r', r.Narrows r' → (s.compile r' e).Accepts text → (s.compile r e).Accepts text) ∧
      ∀ s' r' e', s.Widens r e s' r' e' → (s.compile r e).Accepts text →
        (s'.compile r' e').IsTooLarge ∨ (s'.compile r' e').Accepts text :=
  ⟨fun _ h => h.accepts, fun _ _ _ h => h.extends.accepts⟩

/-- A search for two words with a distance out of bounds. -/
def staffRequest : Request where
  proximity := [⟨"rod", "staff", -3⟩]

/-- It finds what it finds with one more word that must occur, and finds it still with a greater
distance. -/
theorem narrows_and_widens_staff :
    (Settings.compile {} (staffRequest.requiring ["comfort"]) none).Accepts
        "A rod, a staff: they comfort" ∧
      (Settings.compile {} staffRequest none).Accepts "A rod, a staff: they comfort" ∧
      (-3 : Int64) ≤ 99 ∧
      (Settings.compile {} { staffRequest with proximity := [⟨"rod", "staff", 99⟩] } none).Accepts
        "A rod, a staff: they comfort" := by
  obtain ⟨hnarrow, hwiden⟩ :=
    narrows_and_widens {} staffRequest none "A rod, a staff: they comfort"
  have hcomfort : (Settings.compile {} (staffRequest.requiring ["comfort"]) none).Accepts
      "A rod, a staff: they comfort" :=
    ⟨_, Settings.compile_of_fits (by decide) (by decide +kernel), by decide +kernel⟩
  have hstaff := hnarrow _ (.requiring ["comfort"]) hcomfort
  have hfits : ¬(Settings.compile {}
      { staffRequest with proximity := [⟨"rod", "staff", 99⟩] } none).IsTooLarge :=
    Settings.not_isTooLarge (by decide +kernel)
  have hwide := @Settings.Widens.distance {} staffRequest none [] [] ⟨"rod", "staff", -3⟩ 99 rfl
    (by decide)
  exact ⟨hcomfort, hstaff, by decide, (hwiden _ _ _ hwide hstaff).resolve_left hfits⟩

end VerseQuery
