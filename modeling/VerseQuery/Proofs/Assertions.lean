/-
# The assertions in front of a query

The text of a query begins with an assertion for each word that must or must not occur, and what is
searched for comes behind.  Two things are shown of this beginning.

* **It can be told from the rest.**  What is searched for never begins with an assertion
  (`Request.startsAhead_body`), so the pattern of a query falls apart into required words, excluded
  words and body in one way only (`QueryPattern.eq_of_source_eq`).  Queries are compared by their
  texts, and queries that compare equal are the same query (`sameResults_of_beq`).
* **It says what the constraints say.**  The constraints that are run look at the whole text, and an
  assertion looks along one line.  In a text of one line both come to the same
  (`assertions_iff_hold`).
-/
import VerseQuery.Proofs.SourceText
import VerseQuery.Proofs.TextSearch

namespace VerseQuery

open Text

/-! ## 1. The beginning of a pattern -/

namespace Pattern

/-- The pattern begins with an assertion. -/
def startsAhead : Pattern .sequence → Bool
  | ahead _ _ _ => true
  | _ => false

/-- What is asserted to hold, or not to hold, at the front of the pattern. -/
def asserted (holds : Bool) : {kind : PatternKind} → Pattern kind → List (Pattern .choice)
  | _, ahead h body next =>
    if h = holds then body :: next.asserted holds else next.asserted holds
  | _, _ => []

/-- The pattern without the assertions at its front. -/
def behindAssertions : {kind : PatternKind} → Pattern kind → Pattern kind
  | _, ahead _ _ next => next.behindAssertions
  | _, p => p

section

variable {p q : Pattern .sequence}

theorem asserted_eq_nil (h : p.startsAhead = false) (holds : Bool) : p.asserted holds = [] := by
  cases p with
  | ahead => cases h
  | _ => rfl

theorem behindAssertions_eq_self (h : p.startsAhead = false) : p.behindAssertions = p := by
  cases p with
  | ahead => cases h
  | _ => rfl

theorem startsAhead_append (hp : p.startsAhead = false) (hq : q.startsAhead = false) :
    (p ++ q).startsAhead = false := by
  cases p with
  | ahead => cases hp
  | done => exact hq
  | _ => rfl

theorem startsAhead_oneOf {ps : List (Pattern .sequence)} (h : ∀ p ∈ ps, p.startsAhead = false) :
    (oneOf ps).startsAhead = false := by
  match ps with
  | [] => rfl
  | [p] => exact h p List.mem_cons_self
  | _ :: _ :: _ => rfl

theorem startsAhead_literal (cs : List Char) : (literal cs).startsAhead = false := by
  cases cs with
  | nil => rfl
  | cons c cs => rfl

end

end Pattern

/-- **What is searched for does not begin with an assertion.** -/
theorem Request.startsAhead_body (r : Request) (synonyms : List String) :
    (r.body synonyms).startsAhead = false := by
  rw [body]
  split
  · have hany : (alternatives r.plurals (trim r.text :: synonyms)).startsAhead = false := by
      have hone : (Pattern.oneOf ((trim r.text :: synonyms).map fun text =>
          Pattern.literal text.toList)).startsAhead = false := by
        refine Pattern.startsAhead_oneOf fun p hp => ?_
        obtain ⟨text, -, rfl⟩ := List.mem_map.1 hp
        exact Pattern.startsAhead_literal _
      rw [alternatives]
      split
      · exact Pattern.startsAhead_append hone rfl
      · exact hone
    rw [textBody]
    cases r.mode with
    | contains => exact hany
    | endsWith => exact Pattern.startsAhead_append hany rfl
    | _ => rfl
  · refine Pattern.startsAhead_oneOf fun p hp => ?_
    obtain ⟨rule, -, rfl⟩ := List.mem_map.1 hp
    rfl

/-! ## 2. A query is known by its text -/

namespace Constraints

/-- What an assertion about the pattern looks for: the pattern, further on in the line. -/
def inLine (p : Pattern .sequence) : Pattern .choice :=
  .last (.take .any .star p)

theorem inLine_injective : Function.Injective inLine := by
  intro p q h
  have htake := Pattern.last.inj h
  injection htake

variable (holds h : Bool) (ps : List (Pattern .sequence)) (q : Pattern .sequence)

theorem asserted_lookaheads : ((Pattern.concat (ps.map (lookahead h))).append q).asserted holds
    = (if h = holds then ps.map inLine else []) ++ q.asserted holds := by
  induction ps with
  | nil => simp [Pattern.concat, Pattern.append]
  | cons p ps ih =>
    have hfirst : ((Pattern.concat ((p :: ps).map (lookahead h))).append q).asserted holds
        = if h = holds then inLine p :: ((Pattern.concat (ps.map (lookahead h))).append q).asserted
            holds else ((Pattern.concat (ps.map (lookahead h))).append q).asserted holds := rfl
    rw [hfirst, ih]
    split <;> rfl

theorem behindAssertions_lookaheads :
    ((Pattern.concat (ps.map (lookahead h))).append q).behindAssertions = q.behindAssertions := by
  induction ps with
  | nil => rfl
  | cons p ps ih => exact ih

end Constraints

namespace QueryPattern

/-- The pattern of a query, as assertions on required words, on excluded words, and the body. -/
theorem tree_eq (q : QueryPattern) : q.tree =
    (Pattern.concat (q.constraints.required.map (Constraints.lookahead true))).append
      ((Pattern.concat (q.constraints.excluded.map (Constraints.lookahead false))).append q.body) := by
  show (Constraints.lookaheads _).append _ = _
  rw [Constraints.lookaheads, Pattern.concat_append, Pattern.append_assoc]

variable {a b : QueryPattern}

theorem asserted_tree (h : a.body.startsAhead = false) (holds : Bool) : a.tree.asserted holds =
    (if holds then a.constraints.required else a.constraints.excluded).map Constraints.inLine := by
  rw [tree_eq, Constraints.asserted_lookaheads, Constraints.asserted_lookaheads,
    Pattern.asserted_eq_nil h]
  cases holds <;> simp

theorem behindAssertions_tree (h : a.body.startsAhead = false) :
    a.tree.behindAssertions = a.body := by
  rw [tree_eq, Constraints.behindAssertions_lookaheads, Constraints.behindAssertions_lookaheads,
    Pattern.behindAssertions_eq_self h]

theorem tree_eq_of_source_eq (h : a.source = b.source) : a.tree = b.tree := by
  have hchars := congrArg String.toList h
  rw [source, source, Pattern.render, Pattern.render, String.toList_ofList,
    String.toList_ofList] at hchars
  exact Pattern.chars_injective hchars

/-- **The text of a query can be read as one query only**, if what is searched for does not begin
with an assertion. -/
theorem eq_of_source_eq (ha : a.body.startsAhead = false) (hb : b.body.startsAhead = false)
    (hsource : a.source = b.source) (hflags : a.flags = b.flags) : a = b := by
  have htree := tree_eq_of_source_eq hsource
  have hbody : a.body = b.body := by
    rw [← behindAssertions_tree ha, ← behindAssertions_tree hb, htree]
  have hlist : ∀ holds : Bool,
      (if holds then a.constraints.required else a.constraints.excluded)
        = if holds then b.constraints.required else b.constraints.excluded := by
    intro holds
    apply List.map_injective_iff.2 Constraints.inLine_injective
    rw [← asserted_tree ha, ← asserted_tree hb, htree]
  have hrequired : a.constraints.required = b.constraints.required := hlist true
  have hexcluded : a.constraints.excluded = b.constraints.excluded := hlist false
  obtain ⟨⟨_, _⟩, _, _⟩ := a
  obtain ⟨⟨_, _⟩, _, _⟩ := b
  simp_all

theorem beq_iff : (a == b) = true ↔ a.source = b.source ∧ a.flags = b.flags := by
  show (a.source == b.source && a.flags == b.flags) = true ↔ _
  rw [Bool.and_eq_true, beq_iff_eq, beq_iff_eq]

end QueryPattern

/-- Patterns of requests that are taken for equal are the same. -/
theorem Request.pattern_eq_of_beq {r₁ r₂ : Request} {synonyms₁ synonyms₂ : List String}
    (h : (r₁.pattern synonyms₁ == r₂.pattern synonyms₂) = true) :
    r₁.pattern synonyms₁ = r₂.pattern synonyms₂ := by
  obtain ⟨hsource, hflags⟩ := QueryPattern.beq_iff.1 h
  exact QueryPattern.eq_of_source_eq (r₁.startsAhead_body synonyms₁) (r₂.startsAhead_body synonyms₂)
    hsource hflags

/-- **Queries that are taken for equal accept the same texts and highlight the same in them**,
although only their texts and flags were compared. -/
theorem sameResults_of_beq {s₁ s₂ : Settings} {r₁ r₂ : Request} {e₁ e₂ : Option Expansion}
    {q₁ q₂ : CompiledQuery} (h₁ : (s₁.compile r₁ e₁).result = .ok q₁)
    (h₂ : (s₂.compile r₂ e₂).result = .ok q₂) (heq : (q₁.pattern == q₂.pattern) = true)
    (text : String) : q₁.pattern.isMatch text = q₂.pattern.isMatch text ∧
      q₁.pattern.byteSpans text = q₂.pattern.byteSpans text := by
  have hsame : q₁.pattern = q₂.pattern := by
    rw [Settings.pattern_of_compile h₁, Settings.pattern_of_compile h₂] at heq ⊢
    exact Request.pattern_eq_of_beq heq
  rw [hsame]
  exact ⟨rfl, rfl⟩

/-- A search for a lamp, asked for in a roundabout way. -/
def plainLampRequest : Request where
  text := "lamp\t"
  mode := .wholeWord
  plurals := true
  synonyms := true
  synonymCap := some 1
  required := ["\n", "light"]
  excluded := [" dark ", ""]

/-- It compares equal to another search for a lamp, made under other settings, and so both highlight
the same. -/
theorem sameResults_of_beq_lamp : ∃ q₁ q₂,
    (Settings.compile {} lampRequest (some lampSynonyms)).result = .ok q₁ ∧
      (Settings.compile { sizeLimit := 5000000 } plainLampRequest
        (some ⟨[⟨"x", ["torch", "light"]⟩]⟩)).result = .ok q₂ ∧
      (q₁.pattern == q₂.pattern) = true ∧
      q₁.pattern.byteSpans "Two TORCHS, one LIGHT" = [⟨4, 10⟩] ∧
      q₂.pattern.byteSpans "Two TORCHS, one LIGHT" = [⟨4, 10⟩] := by
  have h₁ := Settings.compile_of_fits (s := {}) (r := lampRequest) (e := some lampSynonyms)
    (by decide) (by decide +kernel)
  have h₂ := Settings.compile_of_fits (s := { sizeLimit := 5000000 }) (r := plainLampRequest)
    (e := some ⟨[⟨"x", ["torch", "light"]⟩]⟩) (by decide) (by decide +kernel)
  have heq : ((Settings.assemble {} lampRequest
      (Settings.synonymsFor {} lampRequest (some lampSynonyms))).pattern ==
        (Settings.assemble { sizeLimit := 5000000 } plainLampRequest
          (Settings.synonymsFor { sizeLimit := 5000000 } plainLampRequest
            (some ⟨[⟨"x", ["torch", "light"]⟩]⟩))).pattern) = true := by decide +kernel
  have hspans : (Settings.assemble {} lampRequest
      (Settings.synonymsFor {} lampRequest (some lampSynonyms))).pattern.byteSpans
        "Two TORCHS, one LIGHT" = [⟨4, 10⟩] := by decide +kernel
  exact ⟨_, _, h₁, h₂, heq, hspans, (sameResults_of_beq h₁ h₂ heq _).2.symm.trans hspans⟩

/-! ## 3. What the assertions say -/

/-- The text of the assertions on required and on excluded words. -/
def assertionsText (required excluded : List String) : List Char :=
  (keptTerms required).flatMap (assertionText true) ++
    (keptTerms excluded).flatMap (assertionText false)

namespace Constraints

theorem chars_lookaheads (required excluded : List String) :
    (ofTerms required excluded).lookaheads.chars = assertionsText required excluded := by
  have hdone : (ofTerms required excluded).lookaheads ++ Pattern.done
      = (ofTerms required excluded).lookaheads := Pattern.append_done _
  rw [← hdone, lookaheads_append, chars_assertions, chars_assertions, assertionsText]
  show _ ++ (_ ++ []) = _
  rw [List.append_nil]

/-- The text of the assertions spells the assertions. -/
theorem read?_assertionsText (required excluded : List String) :
    Pattern.read? (assertionsText required excluded)
      = some (ofTerms required excluded).lookaheads := by
  rw [← chars_lookaheads, Pattern.read?_chars]

variable {mode : CaseMode} {text : List Char}

/-- In a text of one line a pattern is found further on in the line if it is found at all. -/
theorem exists_inLine_iff {p : Pattern .sequence} (hline : '\n' ∉ text) :
    (∃ a b, text = a ++ b ∧ (inLine p).Matches mode [] a b) ↔ p.matchesText mode text = true := by
  rw [Pattern.matchesText_iff]
  constructor
  · rintro ⟨_, b, rfl, x, m, rfl, -, hm⟩
    exact ⟨x, m, b, rfl, hm⟩
  · rintro ⟨x, m, y, rfl, hm⟩
    refine ⟨x ++ m, y, rfl, x, m, rfl, fun c hc => ?_, hm⟩
    have hne : c ≠ '\n' := by
      rintro rfl
      exact hline (by simp [hc])
    simpa [CharSet.has] using hne

/-- A row of assertions holds at the start of a text of one line if the patterns are all found in
the text, or none of them is, as the assertions say. -/
theorem matches_lookaheads_iff (hline : '\n' ∉ text) (holds : Bool) (ps : List (Pattern .sequence))
    (q : Pattern .sequence) :
    ((Pattern.concat (ps.map (lookahead holds))).append q).Matches mode [] [] text ↔
      (∀ p ∈ ps, p.matchesText mode text = holds) ∧ q.Matches mode [] [] text := by
  induction ps with
  | nil => simp [Pattern.concat, Pattern.append]
  | cons p ps ih =>
    have hfirst : ((Pattern.concat ((p :: ps).map (lookahead holds))).append q).Matches mode [] []
        text ↔ ((∃ a b, text = a ++ b ∧ (inLine p).Matches mode [] a b) ↔ holds = true) ∧
          ((Pattern.concat (ps.map (lookahead holds))).append q).Matches mode [] [] text := Iff.rfl
    rw [hfirst, ih, exists_inLine_iff hline, ← Bool.eq_iff_iff, List.forall_mem_cons, and_assoc]

/-- The constraints are kept if each required pattern is found in the text and no excluded one. -/
theorem hold_iff {cs : Constraints} : cs.hold mode text = true ↔
    (∀ p ∈ cs.required, p.matchesText mode text = true) ∧
      ∀ p ∈ cs.excluded, p.matchesText mode text = false := by
  rw [hold, Bool.and_eq_true, List.all_eq_true, Bool.not_eq_true', List.any_eq_false]
  simp only [Bool.not_eq_true]

theorem matches_lookaheads_iff_hold {cs : Constraints} (hline : '\n' ∉ text) :
    cs.lookaheads.Matches mode [] [] text ↔ cs.hold mode text = true := by
  have hrows : cs.lookaheads = (Pattern.concat (cs.required.map (lookahead true))).append
      ((Pattern.concat (cs.excluded.map (lookahead false))).append .done) := by
    rw [lookaheads, Pattern.concat_append, Pattern.append_done]
  rw [hrows, matches_lookaheads_iff hline, matches_lookaheads_iff hline, hold_iff, and_congr_right_iff]
  exact fun _ => and_iff_left rfl

end Constraints

/-- **The assertions say of a line what the constraints say.**  Read as a pattern and looked at from
the start of a text of one line, the text of the assertions holds just if each required word is
found in the text and no excluded one is, which is how the constraints are run. -/
theorem assertions_iff_hold (required excluded : List String) (mode : CaseMode) {text : String}
    (hline : '\n' ∉ text.toList) :
    (Constraints.ofTerms required excluded).lookaheads.chars = assertionsText required excluded ∧
    ∃ p, Pattern.read? (assertionsText required excluded) = some p ∧
      (p.Matches mode [] [] text.toList ↔
        (∀ w ∈ (Constraints.ofTerms required excluded).required,
          w.matchesText mode text.toList = true) ∧
        ∀ w ∈ (Constraints.ofTerms required excluded).excluded,
          w.matchesText mode text.toList = false) ∧
      (p.Matches mode [] [] text.toList ↔
        (Constraints.ofTerms required excluded).hold mode text.toList = true) := by
  refine ⟨Constraints.chars_lookaheads required excluded, _,
    Constraints.read?_assertionsText required excluded, ?_,
    Constraints.matches_lookaheads_iff_hold hline⟩
  rw [Constraints.matches_lookaheads_iff_hold hline, Constraints.hold_iff]

/-- Terms with marks in them, in other letters than the text. -/
theorem assertions_iff_hold_marks : '\n' ∉ "A.B and (c)d!".toList ∧
    ∃ p, Pattern.read? "(?=.*\\ba\\.b\\b)(?!.*\\b\\(c\\b)".toList = some p ∧
      p.Matches .folded [] [] "A.B and (c)d!".toList ∧
      ¬p.Matches .exact [] [] "A.B and (c)d!".toList := by
  have hline : '\n' ∉ "A.B and (c)d!".toList := by decide
  have htext : assertionsText ["a.b ", ""] ["(c"]
      = "(?=.*\\ba\\.b\\b)(?!.*\\b\\(c\\b)".toList := by decide +kernel
  obtain ⟨-, p, hread, -, hfolded⟩ := assertions_iff_hold ["a.b ", ""] ["(c"] .folded hline
  obtain ⟨-, p', hread', -, hexact⟩ := assertions_iff_hold ["a.b ", ""] ["(c"] .exact hline
  obtain rfl : p = p' := Option.some.inj (hread.symm.trans hread')
  rw [htext] at hread
  refine ⟨hline, p, hread, hfolded.2 (by decide +kernel), fun h => ?_⟩
  have hnot : (Constraints.ofTerms ["a.b ", ""] ["(c"]).hold .exact "A.B and (c)d!".toList = false := by
    decide +kernel
  exact absurd (hexact.1 h) (by rw [hnot]; decide)

/-- A word on the second line keeps the constraint, but the assertion does not see it. -/
example : (Constraints.ofTerms ["b"] []).hold .exact "a\nb".toList = true ∧
    (Constraints.ofTerms ["b"] []).lookaheads.ends .exact (.start "a\nb".toList) = [] := by
  decide +kernel

end VerseQuery
