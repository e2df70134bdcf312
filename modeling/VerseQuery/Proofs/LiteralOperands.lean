/-
# Whether a query finds what it is made of

A user may expect that a text is found where it stands for itself: that a search for it accepts the
text itself, that a required word is found between blanks, and that a pair of words is found with a
blank between.  No character in the text spoils that by a meaning of its own.  But a mode for words,
a constraint and a rule also ask for word edges, and a text that begins or ends with a mark has no
word edge there when a blank or nothing stands beside it.

So what is expected holds of the texts that begin and end with a word character (`WordLike`), and of
no others (`finds_operands`); `not_finds_marks` shows what becomes of marks.
-/
import VerseQuery.Proofs.TextSearch
import VerseQuery.Proofs.WordPairs

namespace VerseQuery

open Text

/-! ## 1. Word edges at blanks -/

/-- The text begins and ends with a word character. -/
structure WordLike (cs : List Char) : Prop where
  start : StartsInWord cs
  stop : EndsInWord cs

/-- The word stands in the text with a blank or nothing at each side. -/
def StandsApart (word text : List Char) : Prop :=
  ∃ x y, text = x ++ word ++ y ∧ (∀ c ∈ x.getLast?, isBlank c = true) ∧
    ∀ c ∈ y.head?, isBlank c = true

section Edges

variable {x y word : List Char}

theorem not_endsInWord (hx : ∀ c ∈ x.getLast?, isBlank c = true) : ¬EndsInWord x := by
  rintro ⟨c, hc, hword⟩
  rw [isWordChar_of_isBlank (hx c hc)] at hword
  exact absurd hword (by decide)

theorem not_startsInWord (hy : ∀ c ∈ y.head?, isBlank c = true) : ¬StartsInWord y := by
  rintro ⟨c, hc, hword⟩
  rw [isWordChar_of_isBlank (hy c hc)] at hword
  exact absurd hword (by decide)

/-- Behind a blank there is a word edge where a word begins. -/
theorem wordEdge_iff_startsInWord (hx : ∀ c ∈ x.getLast?, isBlank c = true) :
    WordEdge x y ↔ StartsInWord y := by
  have hnot := not_endsInWord hx
  rw [WordEdge]
  tauto

/-- In front of a blank there is a word edge where a word ends. -/
theorem wordEdge_iff_endsInWord (hy : ∀ c ∈ y.head?, isBlank c = true) :
    WordEdge x y ↔ EndsInWord x := by
  have hnot := not_startsInWord hy
  rw [WordEdge]
  tauto

theorem startsInWord_append (hne : word ≠ []) : StartsInWord (word ++ y) ↔ StartsInWord word := by
  rw [StartsInWord, List.head?_append_of_ne_nil _ hne, StartsInWord]

theorem endsInWord_append (hne : word ≠ []) : EndsInWord (x ++ word) ↔ EndsInWord word := by
  rw [EndsInWord, List.getLast?_append_of_ne_nil _ hne, EndsInWord]

/-- Between blanks there are word edges at both ends of what is like a word. -/
theorem wordEdges_iff (hne : word ≠ []) (hx : ∀ c ∈ x.getLast?, isBlank c = true)
    (hy : ∀ c ∈ y.head?, isBlank c = true) :
    WordEdge x (word ++ y) ∧ WordEdge (x ++ word) y ↔ WordLike word := by
  rw [wordEdge_iff_startsInWord hx, wordEdge_iff_endsInWord hy, startsInWord_append hne,
    endsInWord_append hne]
  exact ⟨fun h => ⟨h.1, h.2⟩, fun h => ⟨h.1, h.2⟩⟩

end Edges

/-! ## 2. Constraints -/

section Constraint

variable {mode : CaseMode} {word text : List Char}

theorem occursAsWord_of_standsApart (hne : word ≠ []) (hword : WordLike word)
    (h : StandsApart word text) : OccursAsWord mode word text := by
  obtain ⟨x, y, rfl, hx, hy⟩ := h
  exact ⟨x, word, y, rfl, SameText.rfl word, (wordEdges_iff hne hx hy).2 hword⟩

/-- A stretch as long as the text is the whole text. -/
theorem eq_whole_of_length_eq {x m y : List Char} (h : text = x ++ m ++ y)
    (hlength : m.length = text.length) : x = [] ∧ m = text ∧ y = [] := by
  have hsum := congrArg List.length h
  simp only [List.length_append] at hsum
  obtain rfl : x = [] := List.eq_nil_of_length_eq_zero (by omega)
  obtain rfl : y = [] := List.eq_nil_of_length_eq_zero (by omega)
  refine ⟨rfl, ?_, rfl⟩
  rw [h, List.append_nil, List.nil_append]

/-- In a text that is the word itself there is one place for it only. -/
theorem wordLike_of_occursAsWord (hne : word ≠ []) (h : OccursAsWord mode word word) :
    WordLike word := by
  obtain ⟨x, m, y, hsplit, hsame, hedges⟩ := h
  obtain ⟨rfl, rfl, rfl⟩ := eq_whole_of_length_eq hsplit hsame.length_eq
  exact (wordEdges_iff hne (by simp) (by simp)).1 hedges

/-- **A word is found wherever it stands apart just if it is like a word.** -/
theorem forall_occursAsWord_iff (hne : word ≠ []) :
    (∀ text : String, StandsApart word text.toList → OccursAsWord mode word text.toList) ↔
      WordLike word := by
  constructor
  · intro h
    have halone : StandsApart word (String.ofList word).toList :=
      ⟨[], [], by simp, by simp, by simp⟩
    have hoccurs := h (String.ofList word) halone
    rw [String.toList_ofList] at hoccurs
    exact wordLike_of_occursAsWord hne hoccurs
  · exact fun hword text happart => occursAsWord_of_standsApart hne hword happart

end Constraint

namespace Request

variable {r : Request} {term : String} {text : List Char}

theorem keptBy_of_no_terms (hrequired : r.required = []) (hexcluded : r.excluded = []) :
    r.KeptBy text where
  required := by simp [hrequired]
  excluded := by simp [hexcluded]

theorem keptBy_required_iff (hrequired : r.required = [term]) (hexcluded : r.excluded = [])
    (hblank : isBlankText term = false) :
    r.KeptBy text ↔ OccursAsWord r.flags.caseMode (trim term).toList text := by
  constructor
  · exact fun h => h.required term (by simp [hrequired]) hblank
  · intro h
    refine ⟨fun t ht _ => ?_, by simp [hexcluded]⟩
    obtain rfl : t = term := by simpa [hrequired] using ht
    exact h

theorem keptBy_excluded_iff (hrequired : r.required = []) (hexcluded : r.excluded = [term])
    (hblank : isBlankText term = false) :
    r.KeptBy text ↔ ¬OccursAsWord r.flags.caseMode (trim term).toList text := by
  constructor
  · exact fun h => h.excluded term (by simp [hexcluded]) hblank
  · intro h
    refine ⟨by simp [hrequired], fun t ht _ => ?_⟩
    obtain rfl : t = term := by simpa [hexcluded] using ht
    exact h

end Request

/-! ## 3. Texts -/

/-- The mode finds the text where nothing else stands. -/
def MatchMode.FindsAlone (text : List Char) : MatchMode → Prop
  | contains => True
  | startsWith => True
  | endsWith => True
  | wholeWord => WordLike text
  | wordStartsWith => StartsInWord text
  | wordEndsWith => EndsInWord text

theorem MatchMode.allows_alone_iff {text : List Char} (hne : text ≠ []) (mode : MatchMode) :
    mode.Allows [] text [] ↔ mode.FindsAlone text := by
  have hstart : WordEdge [] (text ++ []) ↔ StartsInWord text := by
    rw [wordEdge_iff_startsInWord (by simp), startsInWord_append hne]
  have hstop : WordEdge ([] ++ text) [] ↔ EndsInWord text := by
    rw [wordEdge_iff_endsInWord (by simp), endsInWord_append hne]
  cases mode with
  | contains => exact Iff.rfl
  | startsWith => exact iff_of_true rfl trivial
  | endsWith => exact iff_of_true rfl trivial
  | wholeWord => exact wordEdges_iff hne (by simp) (by simp)
  | wordStartsWith => exact hstart
  | wordEndsWith => exact hstop

section TextSearch

variable {s : Settings} {r : Request} {e : Option Expansion} {q : CompiledQuery}

/-- A search for a text finds the text where nothing else stands, if its mode can. -/
theorem isMatch_trim_of_findsAlone (hq : (s.compile r e).result = .ok q)
    (hrequired : r.required = []) (hexcluded : r.excluded = []) (hrules : r.usableRules = [])
    (h : r.mode.FindsAlone (trim r.text).toList) : q.pattern.isMatch (trim r.text) = true := by
  have hblank := Request.text_ne_blank (Settings.compile_eq_ok_iff.1 hq).1 hrules
  rw [Settings.isMatch_iff hq, Request.exists_textBody_iff hrules]
  refine ⟨Request.keptBy_of_no_terms hrequired hexcluded, [], (trim r.text).toList, [], by simp,
    ⟨trim r.text, List.mem_cons_self, Or.inl (SameText.rfl _)⟩, ?_⟩
  exact (MatchMode.allows_alone_iff (trim_ne_empty hblank) r.mode).2 h

/-- Without synonyms it finds the text there only if its mode can: there is no room for anything
else, not even for the `s` of a plural. -/
theorem findsAlone_of_isMatch_trim (hq : (s.compile r e).result = .ok q)
    (hrules : r.usableRules = []) (hnone : s.synonymsFor r e = [])
    (h : q.pattern.isMatch (trim r.text) = true) : r.mode.FindsAlone (trim r.text).toList := by
  have hblank := Request.text_ne_blank (Settings.compile_eq_ok_iff.1 hq).1 hrules
  rw [Settings.isMatch_iff hq, Request.exists_textBody_iff hrules, hnone] at h
  obtain ⟨-, x, m, y, hsplit, ⟨alt, halt, hreads⟩, hallows⟩ := h
  obtain rfl := List.mem_singleton.1 halt
  rcases hreads with hsame | ⟨-, hplural⟩
  · obtain ⟨rfl, rfl, rfl⟩ := eq_whole_of_length_eq hsplit hsame.length_eq
    exact (MatchMode.allows_alone_iff (trim_ne_empty hblank) r.mode).1 hallows
  · have hlength := congrArg List.length hsplit
    have hm := hplural.length_eq
    simp only [List.length_append, List.length_singleton] at hlength hm
    omega

end TextSearch

/-! ## 4. Pairs of words -/

theorem isGap_blank (mode : CaseMode) (bound : Nat) : IsGap (isGapWordChar mode) bound [' '] := by
  have hblank : isGapWordChar mode ' ' = false := by
    cases mode <;> decide
  refine ⟨List.cons_ne_nil _ _, ?_, ?_, ?_⟩
  · simpa using hblank
  · simpa using hblank
  · simp [runCount, hblank]

/-- The two words of a rule with a blank between are joined by it if they are like words. -/
theorem ProximityRule.joinedBy_blank_iff {mode : CaseMode} {rule : ProximityRule}
    (h : rule.isUsable = true) :
    rule.JoinedBy mode [] (trim rule.first).toList [' '] (trim rule.second).toList [] ↔
      WordLike (trim rule.first).toList ∧ WordLike (trim rule.second).toList := by
  rw [isUsable, Bool.and_eq_true, Bool.not_eq_true', Bool.not_eq_true'] at h
  have hblank : isBlank ' ' = true := by decide
  have hfirst := wordEdges_iff (x := []) (y := [' '] ++ (trim rule.second).toList ++ [])
    (trim_ne_empty h.1) (by simp) (by simpa using hblank)
  have hsecond := wordEdges_iff (x := [] ++ (trim rule.first).toList ++ [' ']) (y := [])
    (trim_ne_empty h.2) (by simpa using hblank) (by simp)
  rw [← hfirst, ← hsecond]
  simp only [List.append_assoc]
  constructor
  · intro hjoin
    have hone := hjoin.firstEdges
    have htwo := hjoin.secondEdges
    simp only [List.append_assoc] at hone htwo
    exact ⟨hone, htwo⟩
  · rintro ⟨hone, htwo⟩
    refine ⟨SameText.rfl _, ?_, SameText.rfl _, ?_, isGap_blank mode rule.bound⟩
    · simp only [List.append_assoc]
      exact hone
    · simp only [List.append_assoc]
      exact htwo

/-- A text of two words with one character between can be cut in one way only. -/
theorem cut_of_joinedBy {mode : CaseMode} {rule : ProximityRule} {x a g b y : List Char}
    (hjoin : rule.JoinedBy mode x a g b y)
    (h : (trim rule.first).toList ++ [' '] ++ (trim rule.second).toList = x ++ a ++ g ++ b ++ y) :
    x = [] ∧ a = (trim rule.first).toList ∧ g = [' '] ∧ b = (trim rule.second).toList ∧ y = [] := by
  have hlength := congrArg List.length h
  have hfirst := hjoin.first.length_eq
  have hsecond := hjoin.second.length_eq
  have hgap := List.length_pos_of_ne_nil hjoin.gap.nonempty
  simp only [List.length_append, List.length_singleton] at hlength
  obtain rfl : x = [] := List.eq_nil_of_length_eq_zero (by omega)
  obtain rfl : y = [] := List.eq_nil_of_length_eq_zero (by omega)
  rw [List.append_nil, List.nil_append, List.append_assoc, List.append_assoc] at h
  obtain ⟨ha, hrest⟩ := List.append_inj h hfirst.symm
  obtain ⟨hg, hb⟩ := List.append_inj hrest (by rw [List.length_singleton]; omega)
  exact ⟨rfl, ha.symm, hg.symm, hb.symm, rfl⟩

/-- A search for one pair of words finds them with a blank between, if they are like words. -/
theorem isMatch_blank_iff {s : Settings} {r : Request} {e : Option Expansion} {q : CompiledQuery}
    (hq : (s.compile r e).result = .ok q) {rule : ProximityRule} (hrule : r.proximity = [rule])
    (husable : rule.isUsable = true) (hrequired : r.required = []) (hexcluded : r.excluded = []) :
    q.pattern.isMatch (trim rule.first ++ " " ++ trim rule.second) = true ↔
      WordLike (trim rule.first).toList ∧ WordLike (trim rule.second).toList := by
  have hmem : rule ∈ r.proximity := hrule ▸ List.mem_singleton_self rule
  have hrules : r.usableRules ≠ [] :=
    List.ne_nil_of_mem (Request.mem_usableRules.2 ⟨rule, hmem, husable, rfl⟩)
  have htext : (trim rule.first ++ " " ++ trim rule.second).toList
      = (trim rule.first).toList ++ [' '] ++ (trim rule.second).toList := by
    rw [String.toList_append, String.toList_append]
    rfl
  rw [Settings.isMatch_iff hq, Request.exists_body_iff_joins hrules, htext]
  constructor
  · rintro ⟨-, x, a, g, b, y, hsplit, given, hgiven, -, hjoin⟩
    obtain rfl : given = rule := List.mem_singleton.1 (hrule ▸ hgiven)
    obtain ⟨rfl, rfl, rfl, rfl, rfl⟩ := cut_of_joinedBy hjoin hsplit
    exact (ProximityRule.joinedBy_blank_iff husable).1 hjoin
  · intro hwords
    exact ⟨Request.keptBy_of_no_terms hrequired hexcluded, [], (trim rule.first).toList, [' '],
      (trim rule.second).toList, [], by simp, rule, hmem, husable,
      (ProximityRule.joinedBy_blank_iff husable).2 hwords⟩

/-! ## 5. The result -/

/-- **A query finds what it is made of where it asks for no word edge beside a mark.**  A search for
a text accepts the text itself, as far as its mode does not want a word edge at a mark; a required
word is found wherever it stands apart, and an excluded one is not overlooked there, just if it is
like a word; and a pair of words is found with a blank between just if both are like words. -/
theorem finds_operands {s : Settings} {r : Request} {e : Option Expansion} {q : CompiledQuery}
    (hq : (s.compile r e).result = .ok q) :
    (r.required = [] → r.excluded = [] → (∀ rule ∈ r.proximity, rule.isUsable = false) →
      (r.mode.FindsAlone (trim r.text).toList → q.pattern.isMatch (trim r.text) = true) ∧
      (s.synonymsFor r e = [] → q.pattern.isMatch (trim r.text) = true →
        r.mode.FindsAlone (trim r.text).toList)) ∧
    (∀ term, isBlankText term = false →
      (r.required = [term] → r.excluded = [] →
        ((∀ text : String, StandsApart (trim term).toList text.toList →
          q.pattern.constraintsHold text = true) ↔ WordLike (trim term).toList)) ∧
      (r.required = [] → r.excluded = [term] →
        ((∀ text : String, StandsApart (trim term).toList text.toList →
          q.pattern.constraintsHold text = false) ↔ WordLike (trim term).toList)) ∧
      (term ∈ r.excluded → WordLike (trim term).toList → ∀ text : String,
        StandsApart (trim term).toList text.toList → q.pattern.isMatch text = false)) ∧
    (∀ rule, r.proximity = [rule] → rule.isUsable = true → r.required = [] → r.excluded = [] →
      (q.pattern.isMatch (trim rule.first ++ " " ++ trim rule.second) = true ↔
        WordLike (trim rule.first).toList ∧ WordLike (trim rule.second).toList)) := by
  refine ⟨fun hrequired hexcluded hunusable => ?_, fun term hblank => ⟨?_, ?_, ?_⟩,
    fun rule hrule husable hrequired hexcluded =>
      isMatch_blank_iff hq hrule husable hrequired hexcluded⟩
  · have hrules := Request.usableRules_eq_nil_iff.2 hunusable
    exact ⟨isMatch_trim_of_findsAlone hq hrequired hexcluded hrules,
      findsAlone_of_isMatch_trim hq hrules⟩
  · intro hrequired hexcluded
    simp only [Settings.constraintsHold_iff hq,
      Request.keptBy_required_iff hrequired hexcluded hblank]
    exact forall_occursAsWord_iff (trim_ne_empty hblank)
  · intro hrequired hexcluded
    simp only [← Bool.not_eq_true, Settings.constraintsHold_iff hq,
      Request.keptBy_excluded_iff hrequired hexcluded hblank, not_not]
    exact forall_occursAsWord_iff (trim_ne_empty hblank)
  · intro hmem hword text happart
    rw [← Bool.not_eq_true, Settings.isMatch_iff hq]
    rintro ⟨hkept, -⟩
    exact hkept.excluded term hmem hblank
      (occursAsWord_of_standsApart (trim_ne_empty hblank) hword happart)

/-- Texts with marks inside are found: as a text, as a required word, as an excluded word and as a
pair. -/
theorem finds_operands_marks_inside :
    (∃ q, (Settings.compile {} (.ofText " a.b" .wholeWord) none).result = .ok q ∧
      q.pattern.isMatch "a.b" = true) ∧
    (∃ q, (Settings.compile {} ((Request.ofText "!" .contains).requiring ["x*y "]) none).result
      = .ok q ∧ q.pattern.constraintsHold "an x*y !" = true) ∧
    (∃ q, (Settings.compile {} ((Request.ofText "!" .contains).excluding ["x*y "]) none).result
      = .ok q ∧ q.pattern.constraintsHold "an x*y !" = false ∧
        q.pattern.isMatch "an x*y !" = false) ∧
    (∃ q, (Settings.compile {} (.ofRules [⟨"a.b ", "x*y", 0⟩]) none).result = .ok q ∧
      q.pattern.isMatch "a.b x*y" = true) := by
  have hdot : WordLike "a.b".toList := ⟨⟨'a', by decide, by decide⟩, ⟨'b', by decide, by decide⟩⟩
  have hstar : WordLike "x*y".toList := ⟨⟨'x', by decide, by decide⟩, ⟨'y', by decide, by decide⟩⟩
  have hblank : isBlankText "x*y " = false := by decide
  have happart : StandsApart (trim "x*y ").toList "an x*y !".toList :=
    ⟨['a', 'n', ' '], [' ', '!'], by decide, by simp [isBlank], by simp [isBlank]⟩
  have hcompiles : ∀ r : Request, r.hasInput = true →
      (r.pattern []).fits ({} : Settings).sizeLimit = true →
        (Settings.compile {} r none).result = .ok (Settings.assemble {} r []) :=
    fun r hinput hfits => Settings.compile_of_fits (e := none) hinput hfits
  have htext := hcompiles (.ofText " a.b" .wholeWord) (by decide) (by decide +kernel)
  have hrequired := hcompiles ((Request.ofText "!" .contains).requiring ["x*y "]) (by decide)
    (by decide +kernel)
  have hexcluded := hcompiles ((Request.ofText "!" .contains).excluding ["x*y "]) (by decide)
    (by decide +kernel)
  have hpair := hcompiles (.ofRules [⟨"a.b ", "x*y", 0⟩]) (by decide) (by decide +kernel)
  refine ⟨⟨_, htext, ?_⟩, ⟨_, hrequired, ?_⟩, ⟨_, hexcluded, ?_, ?_⟩, ⟨_, hpair, ?_⟩⟩
  · exact ((finds_operands htext).1 rfl rfl (by decide)).1 hdot
  · exact (((finds_operands hrequired).2.1 _ hblank).1 rfl rfl).2 hstar _ happart
  · exact (((finds_operands hexcluded).2.1 _ hblank).2.1 rfl rfl).2 hstar _ happart
  · exact ((finds_operands hexcluded).2.1 _ hblank).2.2 (by decide) hstar _ happart
  · exact ((finds_operands hpair).2.2 _ rfl (by decide) rfl rfl).2 ⟨hdot, hstar⟩

/-- **Marks alone are not found**: not as a whole word, not as a required word between blanks, not
as an excluded word there, and not as a pair. -/
theorem not_finds_marks :
    (∃ q, (Settings.compile {} (.ofText "!" .wholeWord) none).result = .ok q ∧
      q.pattern.isMatch "!" = false) ∧
    (∃ q, (Settings.compile {} ((Request.ofText "a" .contains).requiring ["!"]) none).result
      = .ok q ∧ StandsApart "!".toList "a !".toList ∧
        q.pattern.constraintsHold "a !" = false) ∧
    (∃ q, (Settings.compile {} ((Request.ofText "a" .contains).excluding ["!"]) none).result
      = .ok q ∧ StandsApart "!".toList "a !".toList ∧ q.pattern.isMatch "a !" = true) ∧
    (∃ q, (Settings.compile {} (.ofRules [⟨"!", "?", 1⟩]) none).result = .ok q ∧
      q.pattern.isMatch "! ?" = false) := by
  have happart : StandsApart "!".toList "a !".toList :=
    ⟨['a', ' '], [], by decide, by simp [isBlank], by simp⟩
  refine ⟨⟨_, Settings.compile_of_fits (e := none) (by decide) (by decide +kernel), ?_⟩,
    ⟨_, Settings.compile_of_fits (e := none) (by decide) (by decide +kernel), happart, ?_⟩,
    ⟨_, Settings.compile_of_fits (e := none) (by decide) (by decide +kernel), happart, ?_⟩,
    ⟨_, Settings.compile_of_fits (e := none) (by decide) (by decide +kernel), ?_⟩⟩
  · decide +kernel
  · decide +kernel
  · decide +kernel
  · decide +kernel

end VerseQuery
