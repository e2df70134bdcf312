/-
# What a description says

A query is described to the user in words, and these are put together from the request, next to the
pattern and not from it: each of the two passes over blank terms, leaves out rules of no use, counts
alternatives and bounds distances by itself.  They could disagree.

They do not.  A pattern can be described without the request, by what stands in it: the literals,
the bounds of its repetitions, the alternatives that it offers, an optional `s`, and the signs it
begins and ends with (section 1).  That description is the one the user gets
(`description_is_true`).
-/
import VerseQuery.Pattern.Factor
import VerseQuery.Proofs.SourceText

namespace VerseQuery

open Text

/-! ## 1. Describing a pattern -/

/-- How often the group may be repeated that the token closes. -/
def Token.bound? : Token → Option Nat
  | close bound => bound
  | _ => none

namespace Pattern

/-- The literals of the pattern as texts. -/
def words (p : Pattern .sequence) : List String :=
  p.literals.map String.ofList

/-- How often groups of the pattern may be repeated, in the order in which they are written. -/
def bounds {kind : PatternKind} (p : Pattern kind) : List Nat :=
  p.tokens.filterMap Token.bound?

/-- Whether an `s` is taken that may be missing. -/
def takesPlural {kind : PatternKind} (p : Pattern kind) : Bool :=
  p.tokens.contains (.take (.char 's') .optional)

/-- The choice that the pattern comes to first, if there is one on its way. -/
def choice? : {kind : PatternKind} → Pattern kind → Option (Pattern .choice)
  | _, done => none
  | _, take _ _ next => next.choice?
  | _, anchor _ next => next.choice?
  | _, group body _ => some body
  | _, upTo _ _ next => next.choice?
  | _, ahead _ _ next => next.choice?
  | _, last _ => none
  | _, orElse _ _ => none

/-- What the pattern offers: the alternatives of that choice, or only itself. -/
def offers (p : Pattern .sequence) : List (Pattern .sequence) :=
  match p.choice? with
  | some body => body.alternatives
  | none => [p]

end Pattern

/-- The mode that a pattern is placed by which begins and ends with these tokens. -/
def MatchMode.ofEnds : Option Token → Option Token → MatchMode
  | some (.anchor .textStart), _ => startsWith
  | some (.take .word .star), _ => wordEndsWith
  | some (.anchor .wordEdge), some (.take .word .star) => wordStartsWith
  | some (.anchor .wordEdge), _ => wholeWord
  | _, some (.anchor .textEnd) => endsWith
  | _, _ => contains

/-- The mode that the pattern is placed by. -/
def Pattern.placement (p : Pattern .sequence) : MatchMode :=
  .ofEnds p.tokens.head? p.tokens.getLast?

namespace Description

/-- The clause for patterns that stand for words, if there are any: it quotes their literals. -/
def wordClause (label : String) : List (Pattern .sequence) → List String
  | [] => []
  | p :: ps => [label ++ " " ++ ", ".intercalate (((p :: ps).flatMap Pattern.words).map quoted)]

/-- The clause for an optional `s`. -/
def pluralClause (p : Pattern .sequence) : List String :=
  if p.takesPlural then ["including plurals"] else []

/-- The clause for the alternatives but the first. -/
def synonymClause (p : Pattern .sequence) : List String :=
  match p.offers.length - 1 with
  | 0 => []
  | n => ["with " ++ n.repr ++ " " ++ if n = 1 then "synonym" else "synonyms"]

/-- What is said of two literals with a bounded repetition between them. -/
def pairPhrase (p : Pattern .sequence) : String :=
  match p.words, p.bounds with
  | [first, second], [n] =>
    quoted first ++ " within " ++ n.repr ++ " " ++ (if n = 1 then "word" else "words") ++ " of " ++
      quoted second
  | _, _ => ""

/-- The clauses for what is searched for.  Only pairs of words have a repetition with a bound. -/
def bodyClauses (p : Pattern .sequence) : List String :=
  match p.bounds with
  | [] =>
    [p.placement.label ++ " " ++ quoted (p.words.headD "")] ++ pluralClause p ++ synonymClause p
  | _ => [" or ".intercalate (p.offers.map pairPhrase)]

end Description

/-! ## 2. Constraints -/

namespace Pattern

theorem words_wholeWord {word : String} (hne : word.toList ≠ []) :
    (wholeWord word.toList).words = [word] := by
  rw [words, (HasLiterals.wholeWord hne).eq_literals]
  simp

end Pattern

theorem ne_nil_of_mem_keptTerms {terms : List String} {t : String} (h : t ∈ keptTerms terms) :
    t.toList ≠ [] := by
  obtain ⟨given, -, hblank, rfl⟩ := mem_keptTerms.1 h
  exact trim_ne_empty hblank

namespace Constraints

/-- A pattern for a term has the term as its one literal, and the text of the term as a word. -/
theorem exists_of_mem_wordPatterns {terms : List String} {p : Pattern .sequence}
    (h : p ∈ wordPatterns terms) : ∃ word, p.words = [word] ∧ p.chars = wordText word := by
  obtain ⟨word, hword, rfl⟩ := List.mem_map.1 h
  exact ⟨word, Pattern.words_wholeWord (ne_nil_of_mem_keptTerms hword),
    Pattern.chars_wholeWord word⟩

theorem flatMap_words_wordPatterns (terms : List String) :
    (wordPatterns terms).flatMap Pattern.words = keptTerms terms := by
  have hword : ∀ t ∈ keptTerms terms, (Pattern.wholeWord t.toList).words = [t] :=
    fun t ht => Pattern.words_wholeWord (ne_nil_of_mem_keptTerms ht)
  rw [wordPatterns, List.flatMap_map, List.flatMap_congr hword]
  simp

/-- **The clause for terms quotes what the patterns for them carry.** -/
theorem wordClause_wordPatterns (label : String) (terms : List String) :
    Description.wordClause label (wordPatterns terms) = Description.termClause label terms := by
  have hquoted := flatMap_words_wordPatterns terms
  unfold Description.termClause
  cases hkept : keptTerms terms with
  | nil =>
    rw [wordPatterns, hkept]
    rfl
  | cons t kept =>
    have hsome : Description.wordClause label (wordPatterns terms) =
        [label ++ " " ++ ", ".intercalate
          (((wordPatterns terms).flatMap Pattern.words).map Description.quoted)] := by
      rw [wordPatterns, hkept]
      rfl
    rw [hsome, hquoted, hkept]

end Constraints

/-! ## 3. A text and its alternatives -/

namespace Token

/-- The tokens that alternatives are written with: characters that stand for themselves, a group
around them, and at most the optional `s`. -/
inductive InAlternatives (plurals : Bool) : Token → Prop where
  | char (c : Char) : InAlternatives plurals (take (.char c) .once)
  | plural (h : plurals = true) : InAlternatives plurals (take (.char 's') .optional)
  | group : InAlternatives plurals (opening .group)
  | bar : InAlternatives plurals bar
  | close : InAlternatives plurals (close none)

theorem InAlternatives.bound?_eq_none {plurals : Bool} {t : Token} (h : t.InAlternatives plurals) :
    t.bound? = none := by
  cases h <;> rfl

end Token

namespace Pattern

theorem choice?_append (q : Pattern .sequence) : ∀ p : Pattern .sequence,
    (p ++ q).choice? = p.choice?.or q.choice?
  | done => rfl
  | take _ _ next => choice?_append q next
  | anchor _ next => choice?_append q next
  | group _ _ => rfl
  | upTo _ _ next => choice?_append q next
  | ahead _ _ next => choice?_append q next

/-- The alternatives of some patterns are the patterns, if there is no choice in them. -/
theorem offers_oneOf {ps : List (Pattern .sequence)} (hne : ps ≠ [])
    (h : ∀ p ∈ ps, p.choice? = none) : (oneOf ps).offers = ps := by
  match ps with
  | [p] =>
    have hp : (oneOf [p]).choice? = none := h p List.mem_cons_self
    rw [offers, hp]
    rfl
  | p :: q :: ps => exact alternatives_choiceOf p (q :: ps)

theorem bounds_append (p q : Pattern .sequence) : (p ++ q).bounds = p.bounds ++ q.bounds := by
  rw [bounds, tokens_append, List.filterMap_append]
  rfl

theorem takesPlural_append (p q : Pattern .sequence) :
    (p ++ q).takesPlural = (p.takesPlural || q.takesPlural) := by
  rw [takesPlural, tokens_append, List.contains_append]
  rfl

/-- The pattern has no bound, no optional `s` and no choice. -/
structure IsSilent (p : Pattern .sequence) : Prop where
  bounds : p.bounds = []
  takesPlural : p.takesPlural = false
  choice? : p.choice? = none

theorem IsSilent.append {p q : Pattern .sequence} (hp : p.IsSilent) (hq : q.IsSilent) :
    (p ++ q).IsSilent where
  bounds := by rw [bounds_append, hp.bounds, hq.bounds, List.append_nil]
  takesPlural := by rw [takesPlural_append, hp.takesPlural, hq.takesPlural, Bool.or_false]
  choice? := by rw [choice?_append, hp.choice?, hq.choice?, Option.or_none]

theorem isSilent_anchor (a : Anchor) : (anchor a done).IsSilent :=
  ⟨rfl, rfl, rfl⟩

theorem isSilent_literal (cs : List Char) : (literal cs).IsSilent where
  bounds := by
    refine List.filterMap_eq_nil_iff.2 fun t ht => ?_
    obtain ⟨c, -, rfl⟩ := exists_of_mem_tokens_literal ht
    rfl
  takesPlural := by
    rw [← Bool.not_eq_true, Pattern.takesPlural, List.contains_iff_mem]
    intro h
    obtain ⟨c, -, ht⟩ := exists_of_mem_tokens_literal h
    exact absurd ht (by simp)
  choice? := by
    induction cs with
    | nil => rfl
    | cons c cs ih => exact ih

theorem isSilent_wholeWord (cs : List Char) : (wholeWord cs).IsSilent :=
  (isSilent_anchor .wordEdge).append ((isSilent_literal cs).append (isSilent_anchor .wordEdge))

variable {plurals : Bool} {texts : List String}

theorem inAlternatives (plurals : Bool) (texts : List String) :
    ∀ t ∈ (VerseQuery.alternatives plurals texts).tokens, t.InAlternatives plurals := by
  have hgroup : ∀ t ∈ [Token.opening .group, .bar, .close none], t.InAlternatives plurals := by
    simp [Token.InAlternatives.group, Token.InAlternatives.bar, Token.InAlternatives.close]
  have hany : ∀ t ∈ (oneOf (texts.map fun text => literal text.toList)).tokens,
      t.InAlternatives plurals := by
    intro t ht
    rcases mem_tokens_oneOf ht with ht | ⟨p, hp, ht⟩
    · exact hgroup t ht
    · obtain ⟨text, -, rfl⟩ := List.mem_map.1 hp
      obtain ⟨c, -, rfl⟩ := exists_of_mem_tokens_literal ht
      exact .char c
  unfold VerseQuery.alternatives
  split
  · rename_i hplurals
    rw [tokens_append]
    exact List.forall_mem_append.2 ⟨hany, List.forall_mem_singleton.2 (.plural hplurals)⟩
  · exact hany

theorem bounds_alternatives : (VerseQuery.alternatives plurals texts).bounds = [] :=
  List.filterMap_eq_nil_iff.2 fun t ht => (inAlternatives plurals texts t ht).bound?_eq_none

/-- The alternatives take an optional `s` just if plurals are wanted. -/
theorem takesPlural_alternatives :
    (VerseQuery.alternatives plurals texts).takesPlural = plurals := by
  rw [Bool.eq_iff_iff, takesPlural, List.contains_iff_mem]
  constructor
  · intro h
    cases inAlternatives plurals texts _ h with
    | plural hplurals => exact hplurals
  · intro h
    rw [VerseQuery.alternatives, if_pos h, tokens_append]
    exact List.mem_append_right _ List.mem_cons_self

theorem length_offers_congr {p q : Pattern .sequence} (h : p.choice? = q.choice?) :
    p.offers.length = q.offers.length := by
  unfold offers
  rw [h]
  cases q.choice? with
  | none => rfl
  | some body => rfl

/-- There are as many alternatives as texts. -/
theorem length_offers_alternatives (h : texts ≠ []) :
    (VerseQuery.alternatives plurals texts).offers.length = texts.length := by
  have hsame : (VerseQuery.alternatives plurals texts).choice?
      = (oneOf (texts.map fun text => literal text.toList)).choice? := by
    unfold VerseQuery.alternatives
    split
    · rw [choice?_append]
      exact Option.or_none
    · rfl
  have hnone : ∀ p ∈ texts.map fun text => literal text.toList, p.choice? = none :=
    List.forall_mem_map.2 fun text _ => (isSilent_literal text.toList).choice?
  rw [length_offers_congr hsame, offers_oneOf (by simpa using h) hnone, List.length_map]

end Pattern

namespace MatchMode

variable {p : Pattern .sequence}

/-- A mode puts a pattern between two that have nothing to tell of. -/
theorem exists_place_eq (mode : MatchMode) : ∃ before behind : Pattern .sequence,
    (∀ p, mode.place p = before ++ p ++ behind) ∧ before.IsSilent ∧ behind.IsSilent := by
  have hnothing : (Pattern.done).IsSilent := ⟨rfl, rfl, rfl⟩
  have hanchor := Pattern.isSilent_anchor
  have hrest : (Pattern.take .word .star .done).IsSilent := ⟨rfl, rfl, rfl⟩
  cases mode with
  | contains => exact ⟨.done, .done, fun p => (Pattern.append_done p).symm, hnothing, hnothing⟩
  | startsWith =>
    exact ⟨_, .done, fun p => (Pattern.append_done _).symm, hanchor .textStart, hnothing⟩
  | endsWith => exact ⟨_, _, fun _ => rfl, hnothing, hanchor .textEnd⟩
  | wholeWord => exact ⟨_, _, fun _ => rfl, hanchor .wordEdge, hanchor .wordEdge⟩
  | wordStartsWith => exact ⟨_, _, fun _ => rfl, hanchor .wordEdge, hrest⟩
  | wordEndsWith => exact ⟨_, _, fun _ => rfl, hrest, hanchor .wordEdge⟩

theorem bounds_place (mode : MatchMode) : (mode.place p).bounds = p.bounds := by
  obtain ⟨before, behind, hplace, hbefore, hbehind⟩ := mode.exists_place_eq
  rw [hplace, Pattern.bounds_append, Pattern.bounds_append, hbefore.bounds, hbehind.bounds,
    List.nil_append, List.append_nil]

theorem takesPlural_place (mode : MatchMode) : (mode.place p).takesPlural = p.takesPlural := by
  obtain ⟨before, behind, hplace, hbefore, hbehind⟩ := mode.exists_place_eq
  rw [hplace, Pattern.takesPlural_append, Pattern.takesPlural_append, hbefore.takesPlural,
    hbehind.takesPlural, Bool.false_or, Bool.or_false]

theorem choice?_place (mode : MatchMode) : (mode.place p).choice? = p.choice? := by
  obtain ⟨before, behind, hplace, hbefore, hbehind⟩ := mode.exists_place_eq
  rw [hplace, Pattern.choice?_append, Pattern.choice?_append, hbefore.choice?, hbehind.choice?,
    Option.none_or, Option.or_none]

/-- **The mode is seen from the first and the last token**, since no alternative begins or ends with
a sign of its own. -/
theorem placement_place {plurals : Bool} (hne : p.tokens ≠ [])
    (h : ∀ t ∈ p.tokens, t.InAlternatives plurals) (mode : MatchMode) :
    (mode.place p).placement = mode := by
  obtain ⟨first, hfirst⟩ : ∃ t, p.tokens.head? = some t :=
    Option.isSome_iff_exists.1 (by simpa using hne)
  obtain ⟨last, hlast⟩ : ∃ t, p.tokens.getLast? = some t :=
    Option.isSome_iff_exists.1 (by simpa using hne)
  have hfirstIn := h first (List.mem_of_mem_head? hfirst)
  have hlastIn := h last (List.mem_of_mem_getLast? hlast)
  cases mode with
  | contains =>
    rw [place, Pattern.placement, hfirst, hlast]
    cases hfirstIn <;> cases hlastIn <;> rfl
  | startsWith => rfl
  | endsWith =>
    have hends : (place p endsWith).tokens = p.tokens ++ [.anchor .textEnd] :=
      Pattern.tokens_append _ p
    rw [Pattern.placement, hends, List.head?_append_of_ne_nil _ hne, hfirst, List.getLast?_concat]
    cases hfirstIn <;> rfl
  | wholeWord =>
    have hends : (place p wholeWord).tokens
        = .anchor .wordEdge :: p.tokens ++ [.anchor .wordEdge] :=
      congrArg (_ :: ·) (Pattern.tokens_append _ p)
    rw [Pattern.placement, hends, List.getLast?_concat]
    rfl
  | wordStartsWith =>
    have hends : (place p wordStartsWith).tokens
        = .anchor .wordEdge :: p.tokens ++ [.take .word .star] :=
      congrArg (_ :: ·) (Pattern.tokens_append _ p)
    rw [Pattern.placement, hends, List.getLast?_concat]
    rfl
  | wordEndsWith => rfl

end MatchMode

namespace Request

variable {r : Request} {synonyms : List String}

section OfText

variable (hrules : r.usableRules = [])
include hrules

theorem bounds_body_of_text : (r.body synonyms).bounds = [] := by
  rw [body_of_text hrules, textBody, MatchMode.bounds_place, Pattern.bounds_alternatives]

theorem takesPlural_body_of_text : (r.body synonyms).takesPlural = r.plurals := by
  rw [body_of_text hrules, textBody, MatchMode.takesPlural_place, Pattern.takesPlural_alternatives]

theorem length_offers_body_of_text : (r.body synonyms).offers.length = synonyms.length + 1 := by
  rw [body_of_text hrules, textBody, Pattern.length_offers_congr (r.mode.choice?_place),
    Pattern.length_offers_alternatives (List.cons_ne_nil _ _), List.length_cons]

variable (hinput : r.hasInput = true) (hne : ∀ synonym ∈ synonyms, synonym.toList ≠ [])
include hinput hne

theorem words_body_of_text : (r.body synonyms).words = trim r.text :: synonyms := by
  rw [Pattern.words, (HasLiterals.body hinput hne).eq_literals, List.map_map, bodyWords,
    if_pos (List.isEmpty_iff.2 hrules)]
  simp

theorem placement_body_of_text : (r.body synonyms).placement = r.mode := by
  have hwritten : (alternatives r.plurals (trim r.text :: synonyms)).tokens ≠ [] := by
    intro hnil
    have htexts : ∀ text ∈ trim r.text :: synonyms, text.toList ≠ [] :=
      List.forall_mem_cons.2 ⟨trim_ne_empty (text_ne_blank hinput hrules), hne⟩
    have hliterals := (HasLiterals.alternatives r.plurals htexts).eq_literals
    rw [Pattern.literals, hnil] at hliterals
    exact absurd hliterals (by simp [literalCut, WordCut.all])
  rw [body_of_text hrules, textBody]
  exact r.mode.placement_place hwritten (Pattern.inAlternatives _ _)

theorem bodyClauses_of_text : Description.bodyClauses (r.body synonyms) =
    Description.textClauses (trim r.text) r.mode r.plurals synonyms.length := by
  have hsynonym : Description.synonymClause (r.body synonyms) = if synonyms.length = 0 then [] else
      ["with " ++ synonyms.length.repr ++ " " ++
        if synonyms.length = 1 then "synonym" else "synonyms"] := by
    rw [Description.synonymClause, length_offers_body_of_text hrules, Nat.add_sub_cancel]
    cases synonyms with
    | nil => rfl
    | cons synonym others => rfl
  rw [Description.bodyClauses, bounds_body_of_text hrules]
  simp only [Description.pluralClause, takesPlural_body_of_text hrules, hsynonym,
    placement_body_of_text hrules hinput hne, words_body_of_text hrules hinput hne, List.headD_cons]
  rfl

end OfText

end Request

/-! ## 4. Pairs of words -/

namespace Pattern

theorem bounds_choiceOf (p : Pattern .sequence) (ps : List (Pattern .sequence)) :
    (choiceOf p ps).bounds = (p :: ps).flatMap bounds := by
  induction ps generalizing p with
  | nil => exact (List.flatMap_singleton bounds p).symm
  | cons q ps ih =>
    have hbar : (choiceOf p (q :: ps)).tokens = p.tokens ++ .bar :: (choiceOf q ps).tokens := rfl
    rw [bounds, hbar, List.filterMap_append, List.filterMap_cons_none rfl]
    exact congrArg (p.bounds ++ ·) (ih q)

/-- The repetitions of some alternatives are those of each of them. -/
theorem bounds_oneOf (ps : List (Pattern .sequence)) : (oneOf ps).bounds = ps.flatMap bounds := by
  match ps with
  | [] => rfl
  | [p] => exact (List.flatMap_singleton bounds p).symm
  | p :: q :: ps =>
    have hgroup : (oneOf (p :: q :: ps)).tokens
        = .opening .group :: ((choiceOf p (q :: ps)).tokens ++ [.close none]) := rfl
    rw [bounds, hgroup, List.filterMap_cons_none rfl, List.filterMap_append,
      List.filterMap_cons_none rfl, List.filterMap_nil, List.append_nil]
    exact bounds_choiceOf p (q :: ps)

end Pattern

namespace ProximityRule

theorem bounds_pattern (rule : ProximityRule) : rule.pattern.bounds = [rule.distance] := by
  have hgap : (Pattern.take .asciiSeparator .plus
      (.upTo rule.distance (.last gapWord) (Pattern.wholeWord rule.second.toList))).bounds
        = rule.distance :: (Pattern.wholeWord rule.second.toList).bounds := rfl
  rw [pattern, Pattern.bounds_append, hgap, (Pattern.isSilent_wholeWord _).bounds,
    (Pattern.isSilent_wholeWord _).bounds]
  rfl

theorem takesPlural_pattern (rule : ProximityRule) : rule.pattern.takesPlural = false := by
  have hgap : (Pattern.take .asciiSeparator .plus
      (.upTo rule.distance (.last gapWord) (Pattern.wholeWord rule.second.toList))).takesPlural
        = (Pattern.wholeWord rule.second.toList).takesPlural := rfl
  rw [pattern, Pattern.takesPlural_append, hgap,
    (Pattern.isSilent_wholeWord _).takesPlural, (Pattern.isSilent_wholeWord _).takesPlural]
  rfl

theorem choice?_pattern (rule : ProximityRule) : rule.pattern.choice? = none := by
  have hgap : (Pattern.take .asciiSeparator .plus
      (.upTo rule.distance (.last gapWord) (Pattern.wholeWord rule.second.toList))).choice?
        = (Pattern.wholeWord rule.second.toList).choice? := rfl
  rw [pattern, Pattern.choice?_append, hgap, (Pattern.isSilent_wholeWord _).choice?,
    (Pattern.isSilent_wholeWord _).choice?]
  rfl

/-- The words of a rule that is searched for are the two literals of its pattern. -/
theorem words_pattern {r : Request} {rule : ProximityRule} (h : rule ∈ r.usableRules) :
    rule.pattern.words = [rule.first, rule.second] := by
  obtain ⟨given, -, husable, rfl⟩ := Request.mem_usableRules.1 h
  rw [Pattern.words, (HasLiterals.rule husable).eq_literals]
  simp [normal]

/-- **A rule is described as its pattern is written**: the same words, and the same bound. -/
theorem pairPhrase_pattern {r : Request} {rule : ProximityRule} (h : rule ∈ r.usableRules) :
    Description.pairPhrase rule.pattern = Description.rule rule := by
  rw [Description.pairPhrase, words_pattern h, bounds_pattern]
  rfl

end ProximityRule

namespace Request

variable {r : Request} {synonyms : List String}

theorem bounds_body_of_rules (hrules : r.usableRules ≠ []) :
    (r.body synonyms).bounds = r.usableRules.map (·.distance) := by
  rw [body_of_rules hrules, proximityBody, Pattern.bounds_oneOf, List.flatMap_map]
  simp only [ProximityRule.bounds_pattern]
  exact List.map_eq_flatMap.symm

theorem offers_body_of_rules (hrules : r.usableRules ≠ []) :
    (r.body synonyms).offers = r.usableRules.map (·.pattern) := by
  rw [body_of_rules hrules, proximityBody]
  refine Pattern.offers_oneOf (by simpa using hrules) ?_
  exact List.forall_mem_map.2 fun rule _ => rule.choice?_pattern

theorem takesPlural_body_of_rules (hrules : r.usableRules ≠ []) :
    (r.body synonyms).takesPlural = false := by
  rw [body_of_rules hrules, proximityBody, ← Bool.not_eq_true, Pattern.takesPlural, List.contains_iff_mem]
  intro h
  rcases Pattern.mem_tokens_oneOf h with h | ⟨p, hp, h⟩
  · exact absurd h (by simp)
  · obtain ⟨rule, -, rfl⟩ := List.mem_map.1 hp
    have hnone := rule.takesPlural_pattern
    rw [← Bool.not_eq_true, Pattern.takesPlural, List.contains_iff_mem] at hnone
    exact hnone h

theorem bodyClauses_of_rules (hrules : r.usableRules ≠ []) :
    Description.bodyClauses (r.body synonyms) = [Description.ruleClause r.usableRules] := by
  have hphrases : (r.body synonyms).offers.map Description.pairPhrase
      = r.usableRules.map Description.rule := by
    rw [offers_body_of_rules hrules, List.map_map]
    exact List.map_congr_left fun rule hrule => ProximityRule.pairPhrase_pattern hrule
  rw [Description.bodyClauses, bounds_body_of_rules hrules, hphrases]
  obtain ⟨rule, rules, hcons⟩ := List.exists_cons_of_ne_nil hrules
  rw [hcons]
  rfl

end Request

/-! ## 5. The result -/

/-- **The description tells what is in the pattern.**  It is put together from clauses on what is
searched for, on the words that must occur and on those that must not, in that order, and each
clause is the one that section 1 reads off the pattern it is about.  A pattern for a word has the
word that is quoted as its one literal, and is the text of it.  A body for a text has the text and
its synonyms as its literals, and offers as many alternatives; a body for rules offers one
alternative for each, with the two words of the rule as its literals and the distance of the rule as
its one bound. -/
theorem description_is_true {s : Settings} {r : Request} {e : Option Expansion} {q : CompiledQuery}
    (hq : (s.compile r e).result = .ok q) :
    q.description = ", ".intercalate (Description.bodyClauses q.pattern.body ++
      Description.wordClause "must contain" q.pattern.constraints.required ++
      Description.wordClause "must not contain" q.pattern.constraints.excluded) ∧
    (∀ p ∈ q.pattern.constraints.required ++ q.pattern.constraints.excluded,
      ∃ word, p.words = [word] ∧ p.chars = wordText word) ∧
    (r.usableRules = [] → q.pattern.body.bounds = [] ∧ q.pattern.body.placement = r.mode ∧
      q.pattern.body.words = trim r.text :: s.synonymsFor r e ∧
      q.pattern.body.offers.length = q.pattern.body.words.length) ∧
    (r.usableRules ≠ [] → q.pattern.body.takesPlural = false ∧
      q.pattern.body.offers.map (fun p => (p.words, p.bounds)) =
        r.usableRules.map fun rule => ([rule.first, rule.second], [rule.distance])) := by
  obtain ⟨hinput, -, rfl⟩ := Settings.compile_eq_ok_iff.1 hq
  have hne : ∀ synonym ∈ s.synonymsFor r e, synonym.toList ≠ [] :=
    fun _ => s.ne_nil_of_mem_synonymsFor
  refine ⟨?_, ?_, fun hrules => ?_, fun hrules => ?_⟩
  · have hbody : Description.bodyClauses (r.body (s.synonymsFor r e)) =
        if r.usableRules.isEmpty then
          Description.textClauses (trim r.text) r.mode r.plurals (s.synonymsFor r e).length
        else [Description.ruleClause r.usableRules] := by
      by_cases hrules : r.usableRules = []
      · rw [Request.bodyClauses_of_text hrules hinput hne, if_pos (List.isEmpty_iff.2 hrules)]
      · rw [Request.bodyClauses_of_rules hrules, if_neg (by simpa using hrules)]
    show r.describe _ = ", ".intercalate (Description.bodyClauses (r.body _) ++
      Description.wordClause _ (Constraints.wordPatterns r.required) ++
      Description.wordClause _ (Constraints.wordPatterns r.excluded))
    rw [hbody, Constraints.wordClause_wordPatterns, Constraints.wordClause_wordPatterns]
    rfl
  · intro p hp
    rcases List.mem_append.1 hp with hp | hp
    · exact Constraints.exists_of_mem_wordPatterns hp
    · exact Constraints.exists_of_mem_wordPatterns hp
  · have hwords := Request.words_body_of_text hrules hinput hne
    refine ⟨Request.bounds_body_of_text hrules, Request.placement_body_of_text hrules hinput hne,
      hwords, ?_⟩
    show (r.body _).offers.length = (r.body _).words.length
    rw [hwords, Request.length_offers_body_of_text hrules, List.length_cons]
  · refine ⟨Request.takesPlural_body_of_rules hrules, ?_⟩
    show (r.body _).offers.map _ = _
    rw [Request.offers_body_of_rules hrules, List.map_map]
    refine List.map_congr_left fun rule hrule => ?_
    show (rule.pattern.words, rule.pattern.bounds) = _
    rw [ProximityRule.words_pattern hrule, rule.bounds_pattern]

/-- A search whose texts look like what the clauses are about: a bar, an optional `s`, a bound. -/
def signedRequest : Request where
  text := " lamp|s? "
  mode := .endsWith
  plurals := true
  synonyms := true
  required := ["\x7b0,3\x7d", " "]
  excluded := ["s?", " a|b"]

def signedSynonyms : Expansion := ⟨[⟨"lamp|s?", ["(?:light|wick)", " ", "oil"]⟩]⟩

/-- The signs in the texts are not taken for alternatives, plurals or bounds. -/
theorem description_is_true_signed : ∃ q,
    (Settings.compile {} signedRequest (some signedSynonyms)).result = .ok q ∧
      q.pattern.body.words = ["lamp|s?", "(?:light|wick)", "oil"] ∧
      q.pattern.body.offers.length = 3 ∧ q.pattern.body.bounds = [] ∧
      q.pattern.body.placement = .endsWith ∧ q.pattern.body.takesPlural = true ∧
      q.description = "Ends with \"lamp|s?\", including plurals, with 2 synonyms, " ++
        "must contain \"\x7b0,3\x7d\", must not contain \"s?\", \"a|b\"" := by
  have htexts : trim signedRequest.text :: Settings.synonymsFor {} signedRequest
      (some signedSynonyms) = ["lamp|s?", "(?:light|wick)", "oil"] := by
    decide +kernel
  have hq := Settings.compile_of_fits (s := {}) (r := signedRequest) (e := some signedSynonyms)
    (by decide +kernel) (by decide +kernel)
  obtain ⟨-, -, htext, -⟩ := description_is_true hq
  obtain ⟨hbounds, hplacement, hwords, hoffers⟩ := htext rfl
  have hwords := hwords.trans htexts
  rw [hwords] at hoffers
  exact ⟨_, hq, hwords, hoffers, hbounds, hplacement, by decide +kernel, by decide +kernel⟩

end VerseQuery
