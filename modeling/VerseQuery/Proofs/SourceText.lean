/-
# The text of a query and how it is read

The text of a query is put together from pieces of text: some are fixed, and some are written by a
user and have a backslash in front of each character with a meaning of its own.  Section 1 puts it
together in just that way, by appending characters, and without a pattern.

`source_readsBack` says that nothing is lost on the way.  Read by the grammar of `Proofs.Grammar`,
the text is well formed and spells one pattern, the one that the request asks for; and the literals
of that pattern are what the user wrote, trimmed, in order.  So no text of a user is ever read as
anything but a literal, whatever stands in front of it and behind it.
-/
import VerseQuery.Proofs.Expansions
import VerseQuery.Proofs.Grammar
import VerseQuery.Proofs.WordPairs

namespace VerseQuery

open Text

/-! ## 1. The text, piece by piece -/

/-- A word with a word edge at both its ends. -/
def wordText (word : String) : List Char :=
  ['\\', 'b'] ++ escapeChars word.toList ++ ['\\', 'b']

/-- The assertion that the word stands further on in the line, or does not. -/
def assertionText (holds : Bool) (word : String) : List Char :=
  (if holds then ['(', '?', '=', '.', '*'] else ['(', '?', '!', '.', '*']) ++ wordText word ++ [')']

/-- The texts as alternatives.  One alone needs no group. -/
def anyText : List (List Char) → List Char
  | [] => []
  | [cs] => cs
  | cs :: ds :: rest => ['(', '?', ':'] ++ ['|'].intercalate (cs :: ds :: rest) ++ [')']

/-- The text placed as the mode says. -/
def MatchMode.placeText (cs : List Char) : MatchMode → List Char
  | contains => cs
  | startsWith => ['^'] ++ cs
  | endsWith => cs ++ ['$']
  | wholeWord => ['\\', 'b'] ++ cs ++ ['\\', 'b']
  | wordStartsWith => ['\\', 'b'] ++ cs ++ ['\\', 'w', '*']
  | wordEndsWith => ['\\', 'w', '*'] ++ cs ++ ['\\', 'b']

/-- The two words of a rule, with a gap of at most so many words between them. -/
def ProximityRule.text (rule : ProximityRule) : List Char :=
  wordText (trim rule.first) ++ "[^0-9A-Za-z_]+(?:[0-9A-Za-z_]+[^0-9A-Za-z_]+)".toList ++
    ['{', '0', ','] ++ Nat.toDigits 10 rule.bound ++ ['}'] ++ wordText (trim rule.second)

namespace Request

/-- The text of what is searched for. -/
def bodyText (r : Request) (synonyms : List String) : List Char :=
  if r.usableRules.isEmpty then
    r.mode.placeText
      (anyText ((trim r.text :: synonyms).map fun text => escapeChars text.toList) ++
        if r.plurals then ['s', '?'] else [])
  else anyText ((r.proximity.filter (·.isUsable)).map (·.text))

/-- The text of the query: the assertions and then what is searched for. -/
def sourceText (r : Request) (synonyms : List String) : List Char :=
  (keptTerms r.required).flatMap (assertionText true) ++
    (keptTerms r.excluded).flatMap (assertionText false) ++ r.bodyText synonyms

/-- What the user wrote of what is searched for. -/
def bodyWords (r : Request) (synonyms : List String) : List String :=
  if r.usableRules.isEmpty then trim r.text :: synonyms
  else (r.proximity.filter (·.isUsable)).flatMap fun rule => [trim rule.first, trim rule.second]

/-- The words that must and must not occur. -/
def terms (r : Request) : List String :=
  keptTerms r.required ++ keptTerms r.excluded

end Request

/-! ## 2. The text is that of the pattern -/

/-- The assertion about the word, in front of another pattern. -/
def assertion (holds : Bool) (word : String) (next : Pattern .sequence) : Pattern .sequence :=
  .ahead holds (.last (.take .any .star (.wholeWord word.toList))) next

namespace Pattern

theorem chars_literal (cs : List Char) : (literal cs).chars = escapeChars cs := by
  induction cs with
  | nil => rfl
  | cons c cs ih =>
    have hcons : (literal (c :: cs)).chars = escapeChar c ++ [] ++ (literal cs).chars := rfl
    rw [hcons, ih, List.append_nil]
    rfl

theorem chars_wholeWord (word : String) : (wholeWord word.toList).chars = wordText word := by
  have hedge : (wholeWord word.toList).chars
      = ['\\', 'b'] ++ (literal word.toList ++ anchor .wordEdge done).chars := rfl
  rw [hedge, chars_append, chars_literal, wordText, List.append_assoc]
  rfl

theorem chars_choiceOf (p : Pattern .sequence) (ps : List (Pattern .sequence)) :
    (choiceOf p ps).tokens.flatMap Token.text = ['|'].intercalate ((p :: ps).map chars) := by
  induction ps generalizing p with
  | nil => exact List.intercalate_singleton.symm
  | cons q ps ih =>
    have hbar : (choiceOf p (q :: ps)).tokens = p.tokens ++ .bar :: (choiceOf q ps).tokens := rfl
    rw [hbar, List.flatMap_append, List.flatMap_cons, ih]
    simp only [List.map_cons]
    rw [List.intercalate_cons_cons, List.append_assoc]
    rfl

theorem chars_oneOf (ps : List (Pattern .sequence)) :
    (oneOf ps).chars = anyText (ps.map chars) := by
  match ps with
  | [] => rfl
  | [p] => rfl
  | p :: q :: ps =>
    have hgroup : (oneOf (p :: q :: ps)).tokens
        = .opening .group :: (choiceOf p (q :: ps)).tokens ++ [.close none] := rfl
    rw [chars, hgroup, List.flatMap_append, List.flatMap_cons, chars_choiceOf, List.map_cons,
      List.map_cons, anyText]
    rfl

end Pattern

theorem MatchMode.chars_place (p : Pattern .sequence) (mode : MatchMode) :
    (mode.place p).chars = mode.placeText p.chars := by
  cases mode with
  | contains => rfl
  | startsWith => rfl
  | endsWith => exact Pattern.chars_append _ _
  | wholeWord => exact congrArg (['\\', 'b'] ++ ·) (Pattern.chars_append _ _)
  | wordStartsWith => exact congrArg (['\\', 'b'] ++ ·) (Pattern.chars_append _ _)
  | wordEndsWith => exact congrArg (['\\', 'w', '*'] ++ ·) (Pattern.chars_append _ _)

/-- The tokens between the two words of a rule, up to the closing bracket. -/
def gapTokens : List Token :=
  [.take .asciiSeparator .plus, .opening .group, .take .asciiWord .plus,
    .take .asciiSeparator .plus]

theorem ProximityRule.chars_pattern (rule : ProximityRule) :
    rule.normal.pattern.chars = rule.text := by
  have htokens : rule.normal.pattern.tokens = (Pattern.wholeWord (trim rule.first).toList).tokens ++
      (gapTokens ++ .close (some rule.normal.distance) ::
        (Pattern.wholeWord (trim rule.second).toList).tokens) := Pattern.tokens_append _ _
  have hgap : gapTokens.flatMap Token.text ++ [')']
      = "[^0-9A-Za-z_]+(?:[0-9A-Za-z_]+[^0-9A-Za-z_]+)".toList := by decide
  have hclose : Token.text (.close (some rule.normal.distance))
      = [')'] ++ (['{', '0', ','] ++ Nat.toDigits 10 rule.bound ++ ['}']) := by
    rw [distance_normal]
    rfl
  rw [Pattern.chars, htokens, List.flatMap_append, List.flatMap_append, List.flatMap_cons, hclose,
    text, ← hgap, ← Pattern.chars_wholeWord, ← Pattern.chars_wholeWord]
  simp only [List.append_assoc, Pattern.chars]

theorem chars_assertions (holds : Bool) (words : List String) (p : Pattern .sequence) :
    (words.foldr (assertion holds) p).chars = words.flatMap (assertionText holds) ++ p.chars := by
  induction words with
  | nil => rfl
  | cons word words ih =>
    have hfirst : ∀ q, (assertion holds word q).chars = assertionText holds word ++ q.chars := by
      intro q
      rw [assertionText, ← Pattern.chars_wholeWord]
      cases holds <;> simp [assertion, Pattern.chars, Pattern.tokens, Token.text, Opening.text,
        CharSet.text, Times.text]
    rw [List.foldr_cons, hfirst, ih, List.flatMap_cons, List.append_assoc]

/-- The constraints as assertions, in front of another pattern: an assertion for each word. -/
theorem Constraints.lookaheads_append (required excluded : List String) (q : Pattern .sequence) :
    (ofTerms required excluded).lookaheads ++ q = (keptTerms required).foldr (assertion true)
      ((keptTerms excluded).foldr (assertion false) q) := by
  have hconcat : ∀ ps : List (Pattern .sequence), ∀ q : Pattern .sequence,
      (Pattern.concat ps).append q = ps.foldr Pattern.append q := by
    intro ps q
    induction ps with
    | nil => rfl
    | cons p ps ih =>
      rw [List.foldr_cons, ← ih]
      exact Pattern.append_assoc _ _ _
  have hfold : ∀ (holds : Bool) (terms : List String) (q : Pattern .sequence),
      ((wordPatterns terms).map (lookahead holds)).foldr Pattern.append q
        = (keptTerms terms).foldr (assertion holds) q := by
    intro holds terms q
    rw [wordPatterns, List.map_map, List.foldr_map]
    rfl
  show (Pattern.concat _).append _ = _
  rw [hconcat, List.foldr_append, ← hfold, ← hfold]
  rfl

namespace Request

variable {r : Request} {synonyms : List String}

theorem chars_body : (r.body synonyms).chars = r.bodyText synonyms := by
  rw [body, bodyText]
  split
  · have hany : (alternatives r.plurals (trim r.text :: synonyms)).chars
        = anyText ((trim r.text :: synonyms).map fun text => escapeChars text.toList) ++
          if r.plurals then ['s', '?'] else [] := by
      have hoptional : (Pattern.take (.char 's') .optional .done).chars = ['s', '?'] := rfl
      rw [alternatives]
      split
      · rw [Pattern.chars_append, Pattern.chars_oneOf, hoptional, List.map_map]
        simp only [Function.comp_def, Pattern.chars_literal]
      · rw [Pattern.chars_oneOf, List.append_nil, List.map_map]
        simp only [Function.comp_def, Pattern.chars_literal]
    rw [textBody, MatchMode.chars_place, hany]
  · rw [proximityBody, Pattern.chars_oneOf, usableRules, List.map_map, List.map_map]
    simp only [Function.comp_def, ProximityRule.chars_pattern]

/-- The pattern of the query: an assertion for each word that must or must not occur, and then what
is searched for. -/
def syntaxTree (r : Request) (synonyms : List String) : Pattern .sequence :=
  (keptTerms r.required).foldr (assertion true)
    ((keptTerms r.excluded).foldr (assertion false) (r.body synonyms))

theorem tree_pattern : (r.pattern synonyms).tree = r.syntaxTree synonyms :=
  Constraints.lookaheads_append r.required r.excluded (r.body synonyms)

/-- **The text of the pattern is the one put together from pieces.** -/
theorem toList_source : (r.pattern synonyms).source.toList = r.sourceText synonyms := by
  rw [QueryPattern.source, Pattern.render, String.toList_ofList, tree_pattern, syntaxTree,
    chars_assertions, chars_assertions, chars_body, sourceText, List.append_assoc]

/-- The patterns that are searched for one by one have the texts of the pieces. -/
theorem chars_parts :
    (r.pattern synonyms).parts.map Pattern.chars = r.bodyText synonyms :: r.terms.map wordText := by
  have hwords : ∀ terms, (Constraints.wordPatterns terms).map Pattern.chars
      = (keptTerms terms).map wordText := by
    intro terms
    rw [Constraints.wordPatterns, List.map_map]
    simp only [Function.comp_def, Pattern.chars_wholeWord]
  rw [QueryPattern.parts, List.cons_append, List.map_cons, List.map_append, terms, List.map_append,
    ← hwords, ← hwords]
  exact congrArg (· :: _) chars_body

end Request

/-! ## 3. The literals are what the user wrote -/

namespace HasLiterals

theorem assertions {words : List String} (hne : ∀ word ∈ words, word.toList ≠ []) (holds : Bool)
    {p : Pattern .sequence} {others : List (List Char)} (h : HasLiterals p others) :
    HasLiterals (words.foldr (assertion holds) p) (words.map String.toList ++ others) := by
  induction words with
  | nil => exact h
  | cons word words ih =>
    obtain ⟨hword, hne⟩ := List.forall_mem_cons.1 hne
    have hany : (Token.take .any .star).EndsLiteral := fun _ => rfl
    have hahead := ahead holds (last (take hany (wholeWord hword))) (ih hne)
    exact hahead

theorem alternatives (plurals : Bool) {texts : List String}
    (hne : ∀ text ∈ texts, text.toList ≠ []) :
    HasLiterals (alternatives plurals texts) (texts.map String.toList) := by
  have hany := oneOf (f := fun text : String => Pattern.literal text.toList)
    (g := fun text : String => [text.toList]) fun text htext => literal (hne text htext)
  rw [← List.map_eq_flatMap] at hany
  cases plurals with
  | false => exact hany
  | true =>
    have hends : (Token.take (.char 's') .optional).EndsLiteral := fun _ => rfl
    have hoptional := append hany (take hends done) rfl hends
    rwa [List.append_nil] at hoptional

theorem place {p : Pattern .sequence} {words : List (List Char)} (h : HasLiterals p words)
    (mode : MatchMode) : HasLiterals (mode.place p) words := by
  have hbehind : ∀ {q : Pattern .sequence} {t : Token} {rest : List Token}, HasLiterals q [] →
      q.tokens = t :: rest → t.EndsLiteral → HasLiterals (p ++ q) words := by
    intro q t rest hq htokens ht
    have hpq := append h hq htokens ht
    rwa [List.append_nil] at hpq
  cases mode with
  | contains => exact h
  | startsWith => exact anchor .textStart h
  | endsWith => exact hbehind (anchor .textEnd done) rfl fun _ => rfl
  | wholeWord => exact anchor .wordEdge (hbehind (anchor .wordEdge done) rfl fun _ => rfl)
  | wordStartsWith =>
    exact anchor .wordEdge (hbehind (take (fun _ => rfl) done) rfl fun _ => rfl)
  | wordEndsWith =>
    exact take (fun _ => rfl) (hbehind (anchor .wordEdge done) rfl fun _ => rfl)

theorem rule {rule : ProximityRule} (h : rule.isUsable = true) :
    HasLiterals rule.normal.pattern [(trim rule.first).toList, (trim rule.second).toList] := by
  rw [ProximityRule.isUsable, Bool.and_eq_true, Bool.not_eq_true', Bool.not_eq_true'] at h
  have hgap : HasLiterals (.last ProximityRule.gapWord) [] :=
    last (take (fun _ => rfl) (take (fun _ => rfl) done))
  exact append (wholeWord (trim_ne_empty h.1))
    (take (fun _ => rfl) (upTo rule.normal.distance hgap (wholeWord (trim_ne_empty h.2)))) rfl
    fun _ => rfl

/-- What is searched for has the words of the user as its literals. -/
theorem body {r : Request} {synonyms : List String} (hinput : r.hasInput = true)
    (hne : ∀ synonym ∈ synonyms, synonym.toList ≠ []) :
    HasLiterals (r.body synonyms) ((r.bodyWords synonyms).map String.toList) := by
  rw [Request.body, Request.bodyWords]
  split
  · rename_i hrules
    have htext := Request.text_ne_blank hinput (List.isEmpty_iff.1 hrules)
    exact place (alternatives r.plurals (List.forall_mem_cons.2 ⟨trim_ne_empty htext, hne⟩)) r.mode
  · rw [proximityBody, Request.usableRules, List.map_map, List.map_flatMap]
    exact oneOf fun given hmem => rule (List.mem_filter.1 hmem).2

end HasLiterals

/-! ## 4. Reading the text back -/

/-- Read by the grammar, the text is well formed and spells the pattern and no other, and the
literals of the pattern are the words. -/
structure ReadsBack (cs : List Char) (p : Pattern .sequence) (words : List String) : Prop where
  balanced : BalancedText cs
  read : Pattern.read? cs = some p
  only : ∀ q : Pattern .sequence, q.Spells cs ↔ q = p
  literals : p.literals = words.map String.toList

theorem readsBack_chars {p : Pattern .sequence} {words : List String}
    (h : HasLiterals p (words.map String.toList)) : ReadsBack p.chars p words where
  balanced := p.balancedText_chars
  read := Pattern.read?_chars p
  only q := by
    have hp : p.Spells p.chars := Pattern.spells_iff.2 rfl
    constructor
    · exact fun hq => Pattern.Spells.unique hq hp
    · rintro rfl
      exact hp
  literals := h.eq_literals

/-- The pattern text that compiling came to, whether or not its machine was small enough. -/
def Outcome.source? (o : Outcome CompiledQuery) : Option String :=
  match o.result with
  | .ok q => some q.pattern.source
  | .error (.tooLarge source _) => some source
  | .error _ => none

theorem Settings.source?_compile {s : Settings} {r : Request} {e : Option Expansion}
    (hinput : r.hasInput = true) :
    (s.compile r e).source? = some (r.pattern (s.synonymsFor r e)).source := by
  rw [compile, if_pos hinput]
  dsimp only
  split
  · rfl
  · rfl

/-- **No text of a user is ever read as anything but a literal.**  Whenever there is something to
search for, the text of the query is put together from the pieces of section 1 and reads back as the
pattern that was asked for, and so do the texts that are searched for one by one. -/
theorem source_readsBack {s : Settings} {r : Request} {e : Option Expansion}
    (hinput : r.hasInput = true) : ∃ source,
      (s.compile r e).source? = some source ∧
      source.toList = r.sourceText (s.synonymsFor r e) ∧
      ReadsBack source.toList (r.syntaxTree (s.synonymsFor r e))
        (r.terms ++ r.bodyWords (s.synonymsFor r e)) ∧
      (r.pattern (s.synonymsFor r e)).parts.map Pattern.chars
        = r.bodyText (s.synonymsFor r e) :: r.terms.map wordText ∧
      ReadsBack (r.bodyText (s.synonymsFor r e)) (r.body (s.synonymsFor r e))
        (r.bodyWords (s.synonymsFor r e)) ∧
      ∀ term ∈ r.terms, ReadsBack (wordText term) (.wholeWord term.toList) [term] := by
  have hbody : HasLiterals (r.body (s.synonymsFor r e))
      ((r.bodyWords (s.synonymsFor r e)).map String.toList) :=
    .body hinput fun _ => s.ne_nil_of_mem_synonymsFor
  have hterms : ∀ {terms : List String}, ∀ term ∈ keptTerms terms, term.toList ≠ [] := by
    intro terms term hterm
    obtain ⟨given, -, hblank, rfl⟩ := mem_keptTerms.1 hterm
    exact trim_ne_empty hblank
  refine ⟨_, Settings.source?_compile hinput, Request.toList_source, ?_, Request.chars_parts, ?_,
    fun term hterm => ?_⟩
  · have htree : HasLiterals (r.syntaxTree (s.synonymsFor r e))
        ((r.terms ++ r.bodyWords (s.synonymsFor r e)).map String.toList) := by
      rw [Request.terms, List.map_append, List.map_append, List.append_assoc]
      exact .assertions hterms true (.assertions hterms false hbody)
    rw [QueryPattern.source, Pattern.render, String.toList_ofList, Request.tree_pattern]
    exact readsBack_chars htree
  · rw [← Request.chars_body]
    exact readsBack_chars hbody
  · have hne : term.toList ≠ [] := by
      rcases List.mem_append.1 hterm with hterm | hterm
      · exact hterms term hterm
      · exact hterms term hterm
    rw [← Pattern.chars_wholeWord]
    exact readsBack_chars (.wholeWord hne)

/-- A search whose texts are made of what pattern text is made of, one of them with a backslash at
its end. -/
def trickyRequest : Request where
  text := " a\\ "
  mode := .wordEndsWith
  plurals := true
  synonyms := true
  required := ["(?!", " x|y"]
  excluded := ["", "\\b\\"]

def trickySynonyms : Expansion := ⟨[⟨"a", ["s? ", ")", "^[^]"]⟩]⟩

/-- Its text reads back, and the literals in it are the texts that were given. -/
theorem source_readsBack_tricky : trickyRequest.hasInput = true ∧ ∃ source,
    (Settings.compile {} trickyRequest (some trickySynonyms)).source? = some source ∧
      source = "(?=.*\\b\\(\\?!\\b)(?=.*\\bx\\|y\\b)(?!.*\\b\\\\b\\\\\\b)" ++
        "\\w*(?:a\\\\|s\\?|\\)|\\^\\[\\^\\])s?\\b" ∧
      ReadsBack source.toList
        (trickyRequest.syntaxTree (Settings.synonymsFor {} trickyRequest (some trickySynonyms)))
        ["(?!", "x|y", "\\b\\", "a\\", "s?", ")", "^[^]"] := by
  have hinput : trickyRequest.hasInput = true := by decide
  obtain ⟨source, hsource, htext, hread, -⟩ :=
    source_readsBack (s := {}) (e := some trickySynonyms) hinput
  have hwords : trickyRequest.terms ++ trickyRequest.bodyWords
      (Settings.synonymsFor {} trickyRequest (some trickySynonyms))
        = ["(?!", "x|y", "\\b\\", "a\\", "s?", ")", "^[^]"] := by decide +kernel
  rw [hwords] at hread
  refine ⟨hinput, source, hsource, ?_, hread⟩
  rw [← String.toList_inj, htext]
  decide +kernel

end VerseQuery
