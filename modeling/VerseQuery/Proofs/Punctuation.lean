/-
# What punctuation of the user adds

Cost and volume are read off the text of a query character by character: quantifier signs, opening
brackets and question marks are counted wherever they stand.  One that a user wrote has a backslash
in front of it and is no sign of the pattern any more, but it is counted all the same.  The measure
is a rough one, and does not look for backslashes.

What is counted is told apart here.  A text of the user adds the characters that it has, once for
each place where it is written, and nothing comes of writing it as a literal; all else is counted in
the frame, which is the text of the query with nothing in the places of the user's texts
(`Request.weight_sourceText`, `signs_of_compile`).  So the counts are those of the frame for texts
without such characters, and not for others (`signs_beyond_frame`).
-/
import VerseQuery.Proofs.Weights

namespace VerseQuery

open Text

/-! ## 1. Frames -/

/-- The rule without its words. -/
def ProximityRule.unworded (rule : ProximityRule) : ProximityRule :=
  { rule with first := "", second := "" }

namespace Request

/-- The text of what is searched for, without the text of the request and without the synonyms, of
which there are so many, or without the words of the rules. -/
def bodyFrame (r : Request) (synonyms : Nat) : List Char :=
  if r.usableRules.isEmpty then
    r.mode.placeText
      (anyText (List.replicate (synonyms + 1) []) ++ if r.plurals then ['s', '?'] else [])
  else anyText ((r.proximity.filter (·.isUsable)).map (·.unworded.text))

/-- The text of the query with nothing in the places of what the user wrote. -/
def frameText (r : Request) (synonyms : Nat) : List Char :=
  (keptTerms r.required).flatMap (fun _ => assertionText true "") ++
    (keptTerms r.excluded).flatMap (fun _ => assertionText false "") ++ r.bodyFrame synonyms

/-- What the user wrote, and what was found for it, in the order in which the query has it. -/
def writtenText (r : Request) (synonyms : List String) : List Char :=
  (r.terms ++ r.bodyWords synonyms).flatMap String.toList

end Request

/-! ## 2. What a text adds to its frame -/

section Frame

variable {scale : Char → Nat}

/-- What is added in each place is added all together. -/
theorem sum_map_eq_add {α : Type} {f g h : α → Nat} (hadd : ∀ x, f x = g x + h x) (xs : List α) :
    (xs.map f).sum = (xs.map g).sum + (xs.map h).sum := by
  rw [← List.sum_map_add, funext hadd]

/-- A choice has its bracket and its bars whatever its alternatives are. -/
theorem weight_anyText_map {α : Type} {f g : α → List Char} {h : α → Nat}
    (hadd : ∀ x, weight scale (f x) = weight scale (g x) + h x) (xs : List α) :
    weight scale (anyText (xs.map f)) = weight scale (anyText (xs.map g)) + (xs.map h).sum := by
  have hsum := sum_map_eq_add hadd xs
  rw [weight_anyText, weight_anyText, List.length_map, List.length_map, List.map_map, List.map_map]
  simp only [Function.comp_def]
  omega

variable (hfree : scale '\\' = 0)

include hfree

/-- Where a backslash weighs nothing, a text weighs the same as a literal. -/
theorem weight_escapeChars (cs : List Char) :
    weight scale (escapeChars cs) = weight scale cs := by
  have hone : ∀ c, weight scale (escapeChar c) = scale c := by
    intro c
    rw [escapeChar]
    split
    · rw [weight_cons, hfree, weight_cons, weight_nil]
      omega
    · rw [weight_cons, weight_nil]
      omega
  rw [escapeChars, weight_flatMap]
  simp only [hone]
  rfl

theorem weight_wordText (word : String) :
    weight scale (wordText word) = weight scale (wordText "") + weight scale word.toList := by
  have hempty : weight scale "".toList = 0 := rfl
  simp only [wordText, weight_append, weight_escapeChars hfree, hempty]
  omega

theorem weight_assertionText (holds : Bool) (word : String) :
    weight scale (assertionText holds word) =
      weight scale (assertionText holds "") + weight scale word.toList := by
  simp only [assertionText, weight_append]
  rw [weight_wordText hfree word]
  omega

theorem ProximityRule.weight_text (rule : ProximityRule) :
    weight scale rule.text = weight scale rule.unworded.text +
      weight scale ([trim rule.first, trim rule.second].flatMap String.toList) := by
  have hfirst : trim rule.unworded.first = "" := rfl
  have hsecond : trim rule.unworded.second = "" := rfl
  have hbound : rule.unworded.bound = rule.bound := rfl
  have hwords : weight scale ([trim rule.first, trim rule.second].flatMap String.toList) =
      weight scale (trim rule.first).toList + weight scale (trim rule.second).toList := by
    rw [weight_flatMap]
    simp
  rw [text, text, hfirst, hsecond, hbound, hwords]
  simp only [weight_append]
  rw [weight_wordText hfree (trim rule.first), weight_wordText hfree (trim rule.second)]
  omega

namespace Request

theorem weight_bodyText (r : Request) (synonyms : List String) :
    weight scale (r.bodyText synonyms) = weight scale (r.bodyFrame synonyms.length) +
      weight scale ((r.bodyWords synonyms).flatMap String.toList) := by
  rw [bodyText, bodyFrame, bodyWords]
  split
  · have hempty : List.replicate (synonyms.length + 1) [] =
        (trim r.text :: synonyms).map fun _ => ([] : List Char) := by
      rw [List.map_const', List.length_cons]
    have hliterals : ∀ text : String, weight scale (escapeChars text.toList) =
        weight scale [] + weight scale text.toList := by
      intro text
      rw [weight_escapeChars hfree, weight_nil, Nat.zero_add]
    rw [weight_placeText, weight_placeText r.mode (_ ++ _), hempty, weight_append, weight_append,
      weight_anyText_map hliterals, weight_flatMap]
    omega
  · rw [weight_anyText_map (ProximityRule.weight_text hfree), List.flatMap_assoc, weight_flatMap]

/-- **A query weighs what its frame and the texts of the user weigh**, where a backslash weighs
nothing. -/
theorem weight_sourceText (r : Request) (synonyms : List String) :
    weight scale (r.sourceText synonyms) =
      weight scale (r.frameText synonyms.length) + weight scale (r.writtenText synonyms) := by
  have hassertions : ∀ (holds : Bool) (words : List String),
      weight scale (words.flatMap (assertionText holds)) =
        weight scale (words.flatMap fun _ => assertionText holds "") +
          weight scale (words.flatMap String.toList) := by
    intro holds words
    rw [weight_flatMap, weight_flatMap, weight_flatMap]
    exact sum_map_eq_add (weight_assertionText hfree holds) words
  rw [sourceText, frameText, writtenText, terms, List.flatMap_append, List.flatMap_append]
  simp only [weight_append]
  rw [hassertions, hassertions, weight_bodyText hfree]
  omega

end Request

end Frame

/-! ## 3. What is counted -/

/-- Characters other than the backslash are counted in the frame and in the user's texts. -/
theorem Request.countP_source {r : Request} {synonyms : List String} {p : Char → Bool}
    (hp : p '\\' = false) : (r.pattern synonyms).source.toList.countP p =
      (r.frameText synonyms.length).countP p + (r.writtenText synonyms).countP p := by
  have hfree : (fun c => if p c then 1 else 0) '\\' = 0 := by simp [hp]
  rw [toList_source, countP_eq_weight, countP_eq_weight, countP_eq_weight, weight_sourceText hfree]

/-- **The signs that are counted in the text of a query are those of its frame and those that the
user wrote**: of the quantifier signs and the opening brackets, which make up its cost, and of the
question marks, by which its volume is estimated. -/
theorem signs_of_compile {s : Settings} {r : Request} {e : Option Expansion} {q : CompiledQuery}
    (hq : (s.compile r e).result = .ok q) :
    q.pattern.source.toList.countP Cost.isQuantifier =
        (r.frameText (s.synonymsFor r e).length).countP Cost.isQuantifier +
          (r.writtenText (s.synonymsFor r e)).countP Cost.isQuantifier ∧
      q.pattern.source.toList.count '(' =
        (r.frameText (s.synonymsFor r e).length).count '(' +
          (r.writtenText (s.synonymsFor r e)).count '(' ∧
      q.pattern.source.toList.count '?' =
        (r.frameText (s.synonymsFor r e).length).count '?' +
          (r.writtenText (s.synonymsFor r e)).count '?' := by
  rw [Settings.pattern_of_compile hq]
  exact ⟨Request.countP_source (by decide), Request.countP_source (by decide),
    Request.countP_source (by decide)⟩

/-- A search for a question, or for another one. -/
def questionRequest : Request where
  text := " (why?) "
  mode := .wholeWord
  plurals := true
  synonyms := true
  required := ["*", " "]

def questionSynonyms : Expansion := ⟨[⟨"(why?)", ["how? "]⟩]⟩

/-- Of seven quantifier signs three are the user's, of three brackets one, and of five question
marks two. -/
theorem signs_of_compile_question : ∃ q,
    (Settings.compile {} questionRequest (some questionSynonyms)).result = .ok q ∧
      q.pattern.source = "(?=.*\\b\\*\\b)\\b(?:\\(why\\?\\)|how\\?)s?\\b" ∧
      String.ofList (questionRequest.frameText 1) = "(?=.*\\b\\b)\\b(?:|)s?\\b" ∧
      String.ofList (questionRequest.writtenText ["how?"]) = "*(why?)how?" ∧
      q.pattern.source.toList.countP Cost.isQuantifier = 4 + 3 ∧
      q.pattern.source.toList.count '(' = 2 + 1 ∧ q.pattern.source.toList.count '?' = 3 + 2 := by
  have hq := Settings.compile_of_fits (s := {}) (r := questionRequest)
    (e := some questionSynonyms) (by decide +kernel) (by decide +kernel)
  obtain ⟨hquantifiers, hbrackets, hmarks⟩ := signs_of_compile hq
  exact ⟨_, hq, by decide +kernel, by decide +kernel, by decide +kernel,
    hquantifiers.trans (by decide +kernel), hbrackets.trans (by decide +kernel),
    hmarks.trans (by decide +kernel)⟩

/-- **Punctuation of a user is counted**: a search with nothing around its text costs more for it,
and is thought to have more results. -/
theorem signs_beyond_frame : ∃ q,
    (Settings.compile {} (.ofText "(why????)" .contains) none).result = .ok q ∧
      q.pattern.source = "\\(why\\?\\?\\?\\?\\)" ∧
      (Request.ofText "(why????)" .contains).frameText 0 = [] ∧
      q.pattern.source.toList.countP Cost.isQuantifier = 4 ∧
      q.pattern.source.toList.count '(' = 1 ∧ q.pattern.source.toList.count '?' = 4 ∧
      q.cost = 47 ∧ q.volume = .moderate := by
  have hq := Settings.compile_of_fits (s := {}) (e := none)
    (r := .ofText "(why????)" .contains) (by decide +kernel) (by decide +kernel)
  exact ⟨_, hq, by decide +kernel, by decide +kernel, by decide +kernel, by decide +kernel,
    by decide +kernel, by decide +kernel, by decide +kernel⟩

end VerseQuery
