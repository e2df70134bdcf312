/-
# Searches with and without regard to case

A search that does not regard case finds more, one would think: whatever reads like the words of a
request reads like them but for case.  For a text that is so, and for words that must occur.

For pairs of words it is not.  The gap between the two words is written with two sets of characters,
which are spelled out so that only ASCII letters make up words in it.  But the flag is that of the
whole pattern, and these sets are read but for case as well.  The long s and the kelvin sign fold to
letters: if case counts, they separate words, as they are meant to, and else they make them up.  So
a gap can have more words in it when case does not count, too many perhaps, and a result is lost
that should not be (`not_accepts_caseInsensitive_longS`).  But for that nothing is lost
(`accepts_caseInsensitive`).
-/
import VerseQuery.Proofs.Widening

namespace VerseQuery

open Text

/-! ## 1. What does not depend on case -/

/-- What agrees agrees but for case. -/
theorem SameText.folded {a b : List Char} (h : SameText .exact a b) : SameText .folded a b := by
  rw [exact_iff.1 h]
  exact .rfl b

theorem OccursAsWord.folded {word text : List Char} (h : OccursAsWord .exact word text) :
    OccursAsWord .folded word text := by
  obtain ⟨x, m, y, htext, hm, hedges⟩ := h
  exact ⟨x, m, y, htext, hm.folded, hedges⟩

theorem ReadsLike.folded {plurals : Bool} {text : String} {m : List Char}
    (h : ReadsLike .exact plurals text m) : ReadsLike .folded plurals text m :=
  h.imp SameText.folded (And.imp_right SameText.folded)

/-! ## 2. Gaps -/

section Gaps

variable {kind kind' : Char → Bool} {bound : Nat} {g : List Char}

/-- Runs are counted alike if the characters are told apart alike. -/
theorem runCount_congr (h : ∀ c ∈ g, kind c = kind' c) : runCount kind g = runCount kind' g := by
  induction g with
  | nil => rfl
  | cons c g ih =>
    obtain ⟨hc, hg⟩ := List.forall_mem_cons.1 h
    have hhead : g.head?.any kind = g.head?.any kind' := by
      cases g with
      | nil => rfl
      | cons d g => exact hg d List.mem_cons_self
    rw [runCount, runCount, hc, hhead, ih hg]

theorem IsGap.congr (h : ∀ c ∈ g, kind c = kind' c) (hgap : IsGap kind bound g) :
    IsGap kind' bound g where
  nonempty := hgap.nonempty
  start c hc := (h c (List.mem_of_mem_head? hc)) ▸ hgap.start c hc
  stop c hc := (h c (List.mem_of_getLast? hc)) ▸ hgap.stop c hc
  few := runCount_congr h ▸ hgap.few

end Gaps

/-- But for two characters, those that make up the words between two words are the same. -/
theorem isGapWordChar_folded {c : Char} (hs : c ≠ '\u017F') (hk : c ≠ '\u212A') :
    isGapWordChar .folded c = isGapWordChar .exact c := by
  have hneither : (c == '\u017F' || c == '\u212A') = false := by
    rw [beq_false_of_ne hs, beq_false_of_ne hk]
    rfl
  rw [isGapWordChar, isGapWordChar, hneither, Bool.and_false, Bool.and_false]

/-- A rule that joins two words joins them without regard to case, if their gap is one then. -/
theorem ProximityRule.JoinedBy.folded {rule : ProximityRule} {x a g b y : List Char}
    (h : rule.JoinedBy .exact x a g b y) (hgap : IsGap (isGapWordChar .folded) rule.bound g) :
    rule.JoinedBy .folded x a g b y :=
  ⟨h.first.folded, h.firstEdges, h.second.folded, h.secondEdges, hgap⟩

/-! ## 3. The result -/

namespace Request

/-- The request, without regard to case. -/
def caseInsensitive (r : Request) : Request :=
  { r with ignoreCase := true }

/-- One of the rules of use joins two words of the text, with regard to case, and the gap between
them is one without regard to case as well. -/
def KeepsGap (r : Request) (text : List Char) : Prop :=
  ∃ x a g b y, text = x ++ a ++ g ++ b ++ y ∧ ∃ rule ∈ r.proximity, rule.isUsable = true ∧
    rule.JoinedBy .exact x a g b y ∧ IsGap (isGapWordChar .folded) rule.bound g

variable {r : Request} {synonyms : List String} {text : List Char}

/-- The words that must occur do, if no word must not. -/
theorem KeptBy.caseInsensitive (hexcluded : ∀ t ∈ r.excluded, isBlankText t = true)
    (h : r.caseSensitive.KeptBy text) : r.caseInsensitive.KeptBy text := by
  refine ⟨fun t ht hblank => (h.required t ht hblank).folded, fun t ht hblank => ?_⟩
  exact absurd ((hexcluded t ht).symm.trans hblank) (by decide)

/-- A text that is found with regard to case is found without. -/
theorem foundIn_text_caseInsensitive (hrules : r.usableRules = [])
    (h : r.caseSensitive.FoundIn synonyms text) : r.caseInsensitive.FoundIn synonyms text := by
  obtain ⟨x, m, y, htext, ⟨alt, halt, hreads⟩, hplace⟩ :=
    (exists_textBody_iff (r := r.caseSensitive) hrules).1 h
  exact (exists_textBody_iff (r := r.caseInsensitive) hrules).2
    ⟨x, m, y, htext, ⟨alt, halt, hreads.folded⟩, hplace⟩

/-- A pair of words with a gap that is kept is found without regard to case. -/
theorem KeepsGap.foundIn (h : r.KeepsGap text) : r.caseInsensitive.FoundIn synonyms text := by
  obtain ⟨x, a, g, b, y, htext, rule, hrule, husable, hjoin, hgap⟩ := h
  have hrules : r.caseInsensitive.usableRules ≠ [] :=
    List.ne_nil_of_mem (mem_usableRules.2 ⟨rule, hrule, husable, rfl⟩)
  exact (exists_body_iff_joins hrules).2
    ⟨x, a, g, b, y, htext, rule, hrule, husable, hjoin.folded hgap⟩

/-- In a text with neither of the two characters all gaps are kept. -/
theorem keepsGap_of_not_mem (hs : '\u017F' ∉ text) (hk : '\u212A' ∉ text)
    (hrules : r.usableRules ≠ []) (h : r.caseSensitive.FoundIn synonyms text) :
    r.KeepsGap text := by
  obtain ⟨x, a, g, b, y, htext, rule, hrule, husable, hjoin⟩ :=
    (exists_body_iff_joins (r := r.caseSensitive) hrules).1 h
  have hgap : ∀ c ∈ g, c ∈ text := by
    intro c hc
    rw [htext]
    simp [hc]
  refine ⟨x, a, g, b, y, htext, rule, hrule, husable, hjoin, hjoin.gap.congr fun c hc => ?_⟩
  refine (isGapWordChar_folded ?_ ?_).symm
  · rintro rfl
    exact hs (hgap _ hc)
  · rintro rfl
    exact hk (hgap _ hc)

end Request

/-- **Without regard to case no result is lost**, if no word must not occur: none of a search for a
text; and of a search for pairs of words none with a gap that is one without regard to case as well,
so none at all that has neither a long s nor a kelvin sign. -/
theorem accepts_caseInsensitive {s : Settings} {r : Request} {e : Option Expansion} {text : String}
    (hexcluded : ∀ t ∈ r.excluded, isBlankText t = true)
    (hgaps : (∀ rule ∈ r.proximity, rule.isUsable = false) ∨ r.KeepsGap text.toList ∨
      '\u017F' ∉ text.toList ∧ '\u212A' ∉ text.toList)
    (h : (s.compile r.caseSensitive e).Accepts text) :
    (s.compile r.caseInsensitive e).IsTooLarge ∨ (s.compile r.caseInsensitive e).Accepts text := by
  obtain ⟨hinput, -, hkept, hfound⟩ := Settings.accepts_iff.1 h
  refine Settings.isTooLarge_or_accepts hinput (hkept.caseInsensitive hexcluded) ?_
  by_cases hrules : r.usableRules = []
  · exact Request.foundIn_text_caseInsensitive hrules hfound
  · rcases hgaps with hnone | hgap | ⟨hs, hk⟩
    · exact absurd (Request.usableRules_eq_nil_iff.2 hnone) hrules
    · exact hgap.foundIn
    · exact (Request.keepsGap_of_not_mem hs hk hrules hfound).foundIn

/-- A search for two words with at most one between them. -/
def closeRequest : Request where
  proximity := [⟨"fear", "not", 1⟩]

/-- One long s between the words is allowed as a word, too. -/
theorem accepts_caseInsensitive_longS : closeRequest.KeepsGap "fear ſ not".toList ∧
    (Settings.compile {} closeRequest.caseSensitive none).Accepts "fear ſ not" ∧
      (Settings.compile {} closeRequest.caseInsensitive none).Accepts "fear ſ not" := by
  have hedge : ∀ x y : List Char, Cursor.atWordEdge (.between x y) = true → WordEdge x y :=
    fun x y => (Anchor.holds_iff .wordEdge x y).1
  have hgap : closeRequest.KeepsGap "fear ſ not".toList := by
    have hspace : ∀ mode, ∀ c ∈ some ' ', isGapWordChar mode c = false := by
      rintro mode c ⟨⟩
      cases mode <;> decide
    refine ⟨[], "fear".toList, [' ', 'ſ', ' '], "not".toList, [], by decide, _, List.mem_cons_self,
      by decide, ⟨.rfl _, ⟨?_, ?_⟩, .rfl _, ⟨?_, ?_⟩, ?_⟩, ?_⟩
    · exact hedge _ _ (by decide +kernel)
    · exact hedge _ _ (by decide +kernel)
    · exact hedge _ _ (by decide +kernel)
    · exact hedge _ _ (by decide +kernel)
    · exact ⟨by decide, hspace .exact, hspace .exact, by decide⟩
    · exact ⟨by decide, hspace .folded, hspace .folded, by decide⟩
  have hsensitive : (Settings.compile {} closeRequest.caseSensitive none).Accepts "fear ſ not" :=
    ⟨_, Settings.compile_of_fits (by decide) (by decide +kernel), by decide +kernel⟩
  have hfits : ¬(Settings.compile {} closeRequest.caseInsensitive none).IsTooLarge :=
    Settings.not_isTooLarge (by decide +kernel)
  exact ⟨hgap, hsensitive, (accepts_caseInsensitive (by decide) (Or.inr (Or.inl hgap))
    hsensitive).resolve_left hfits⟩

/-- **A result is lost.**  Two of them are no words if case counts, and two words, one too many, if
it does not: the set of ASCII letters takes them up with the flag. -/
theorem not_accepts_caseInsensitive_longS : closeRequest.excluded = [] ∧
    (Settings.compile {} closeRequest.caseSensitive none).Accepts "fear ſ ſ not" ∧
      ∃ q, (Settings.compile {} closeRequest.caseInsensitive none).result = .ok q ∧
        q.pattern.isMatch "fear ſ ſ not" = false :=
  ⟨rfl, ⟨_, Settings.compile_of_fits (by decide) (by decide +kernel), by decide +kernel⟩,
    _, Settings.compile_of_fits (by decide) (by decide +kernel), by decide +kernel⟩

end VerseQuery
