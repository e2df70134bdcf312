/-
# Which texts a search for a text accepts

A search for a text accepts a text unit that keeps the constraints and has, where the mode wants it,
a stretch that reads like the text or like one of its synonyms, perhaps with an `s` behind it.
`isMatch_text_iff` says so without a pattern: nothing in the text or in a synonym has a meaning of
its own, and the run of word characters that a mode for part of a word takes as well decides
nothing.
-/
import VerseQuery.Proofs.Compiled

namespace VerseQuery

open Text

/-! ## 1. What is searched for, and where -/

/-- The stretch `m` of `x ++ m ++ y` stands where the mode wants it. -/
def MatchMode.Allows (x m y : List Char) : MatchMode → Prop
  | contains => True
  | startsWith => x = []
  | endsWith => y = []
  | wholeWord => WordEdge x (m ++ y) ∧ WordEdge (x ++ m) y
  | wordStartsWith => WordEdge x (m ++ y)
  | wordEndsWith => WordEdge (x ++ m) y

/-- The stretch reads like the text, or like the text and an `s` if plurals are wanted. -/
def ReadsLike (mode : CaseMode) (plurals : Bool) (text : String) (m : List Char) : Prop :=
  SameText mode m text.toList ∨ plurals = true ∧ SameText mode m (text.toList ++ ['s'])

/-- The texts that a request searches for: its own and, if it asks for them and they are known, the
synonyms. -/
def Settings.IsAlternative (s : Settings) (r : Request) (e : Option Expansion)
    (alt : String) : Prop :=
  alt = trim r.text ∨ r.synonyms = true ∧
    ∃ known, e = some known ∧ alt ∈ known.flatten (s.synonymLimit r) (trim r.text)

/-- What makes a text unit a result of a search for a text. -/
structure Settings.IsTextResult (s : Settings) (r : Request) (e : Option Expansion)
    (text : List Char) : Prop where
  kept : r.KeptBy text
  found : ∃ x m y, text = x ++ m ++ y ∧
    (∃ alt, s.IsAlternative r e alt ∧ ReadsLike r.flags.caseMode r.plurals alt m) ∧
    r.mode.Allows x m y

/-! ## 2. The pieces of the body -/

theorem Settings.mem_synonymsFor {s : Settings} {r : Request} {e : Option Expansion}
    {alt : String} :
    alt ∈ trim r.text :: s.synonymsFor r e ↔ s.IsAlternative r e alt := by
  rw [List.mem_cons, IsAlternative]
  refine or_congr_right ?_
  cases e with
  | none => simp [synonymsFor]
  | some known =>
    cases hs : r.synonyms with
    | false => simp [synonymsFor, hs]
    | true => simp [synonymsFor, hs]

theorem matches_alternatives {mode : CaseMode} {plurals : Bool} {texts : List String}
    (h : texts ≠ []) {x m y : List Char} : (alternatives plurals texts).Matches mode x m y ↔
      ∃ text ∈ texts, ReadsLike mode plurals text m := by
  have hany : ∀ {x m y}, (Pattern.oneOf (texts.map fun text => Pattern.literal text.toList)).Matches
      mode x m y ↔ ∃ text ∈ texts, SameText mode m text.toList := by
    intro x m y
    rw [Pattern.matches_oneOf (by simpa using h)]
    constructor
    · rintro ⟨p, hp, hm⟩
      obtain ⟨text, htext, rfl⟩ := List.mem_map.1 hp
      exact ⟨text, htext, Pattern.matches_literal.1 hm⟩
    · rintro ⟨text, htext, hm⟩
      exact ⟨_, List.mem_map.2 ⟨text, htext, rfl⟩, Pattern.matches_literal.2 hm⟩
  cases plurals with
  | false => simp only [alternatives, ReadsLike, hany, Bool.false_eq_true, if_false, false_and,
      or_false]
  | true =>
    simp only [alternatives, if_true, ReadsLike, true_and]
    show (Pattern.append _ _).Matches mode x m y ↔ _
    rw [Pattern.matches_append]
    constructor
    · rintro ⟨a, b, rfl, ha, t, rest, rfl, ht, rfl⟩
      obtain ⟨text, hmem, htext⟩ := hany.1 ha
      refine ⟨text, hmem, ?_⟩
      rcases ht with ⟨c, rfl, hc⟩ | rfl
      · refine Or.inr (SameText.append_iff.2 ⟨a, [c], by simp, htext, ?_⟩)
        simpa [SameText, CharSet.has] using hc
      · exact Or.inl (by simpa using htext)
    · rintro ⟨text, hmem, htext | htext⟩
      · exact ⟨m, [], by simp, hany.2 ⟨text, hmem, htext⟩, [], [], rfl, Or.inr rfl, rfl⟩
      · obtain ⟨a, b, rfl, ha, hb⟩ := SameText.append_iff.1 htext
        obtain ⟨c, rest, rfl, hc, hrest⟩ := SameText.cons_iff.1 hb
        obtain rfl := SameText.nil_iff.1 hrest
        exact ⟨a, [c], rfl, hany.2 ⟨text, hmem, ha⟩, [c], [], rfl,
          Or.inl ⟨c, rfl, by simpa [CharSet.has] using hc⟩, rfl⟩

/-- A mode asks for its place.  The rest of the word, which a mode for part of a word takes as well,
may be empty, so it is left out here. -/
theorem exists_place_iff {mode : CaseMode} {place : MatchMode} {p : Pattern .sequence}
    {text : List Char} :
    (∃ x m y, text = x ++ m ++ y ∧ (place.place p).Matches mode x m y) ↔
      ∃ x m y, text = x ++ m ++ y ∧ p.Matches mode x m y ∧ place.Allows x m y := by
  have hbehind : ∀ {q : Pattern .sequence} {x m y},
      (p ++ q : Pattern .sequence).Matches mode x m y ↔
        (p.Matches mode).andThen (q.Matches mode) x m y := by
    intro q x m y
    rw [← Pattern.matches_append]
    rfl
  cases place with
  | contains => simp only [MatchMode.place, MatchMode.Allows, and_true]
  | startsWith =>
    constructor
    · rintro ⟨x, m, y, h, hx, hp⟩
      exact ⟨x, m, y, h, hp, hx⟩
    · rintro ⟨x, m, y, h, hp, hx⟩
      exact ⟨x, m, y, h, hx, hp⟩
  | endsWith =>
    constructor
    · rintro ⟨x, m, y, h, hm⟩
      obtain ⟨a, b, rfl, hp, hy, rfl⟩ := hbehind.1 hm
      obtain rfl : y = [] := hy
      exact ⟨x, a, [], by simpa using h, hp, rfl⟩
    · rintro ⟨x, m, y, h, hp, rfl⟩
      exact ⟨x, m, [], h, hbehind.2 ⟨m, [], by simp, hp, rfl, rfl⟩⟩
  | wholeWord =>
    constructor
    · rintro ⟨x, m, y, h, hx, hm⟩
      obtain ⟨a, b, rfl, hp, hy, rfl⟩ := hbehind.1 hm
      rw [List.append_nil] at h hx
      exact ⟨x, a, y, h, hp, hx, hy⟩
    · rintro ⟨x, m, y, h, hp, hx, hy⟩
      exact ⟨x, m, y, h, hx, hbehind.2 ⟨m, [], by simp, hp, hy, rfl⟩⟩
  | wordStartsWith =>
    constructor
    · rintro ⟨x, m, y, h, hx, hm⟩
      obtain ⟨a, b, rfl, hp, -⟩ := hbehind.1 hm
      rw [List.append_assoc] at hx
      exact ⟨x, a, b ++ y, by simpa using h, hp, hx⟩
    · rintro ⟨x, m, y, h, hp, hx⟩
      refine ⟨x, m, y, h, hx, hbehind.2 ⟨m, [], by simp, hp, [], [], rfl, ?_, rfl⟩⟩
      simp [CharSet.Takes]
  | wordEndsWith =>
    constructor
    · rintro ⟨x, m, y, h, w, rest, rfl, -, hm⟩
      obtain ⟨a, b, rfl, hp, hy, rfl⟩ := hbehind.1 hm
      exact ⟨x ++ w, a, y, by simpa using h, hp, hy⟩
    · rintro ⟨x, m, y, h, hp, hy⟩
      refine ⟨x, m, y, h, [], m, rfl, by simp [CharSet.Takes], ?_⟩
      rw [List.append_nil]
      exact hbehind.2 ⟨m, [], by simp, hp, hy, rfl⟩

/-- **What a search for a text finds**, if no rule is of use. -/
theorem Request.exists_textBody_iff {r : Request} (h : r.usableRules = []) {synonyms : List String}
    {text : List Char} :
    (∃ x m y, text = x ++ m ++ y ∧ (r.body synonyms).Matches r.flags.caseMode x m y) ↔
      ∃ x m y, text = x ++ m ++ y ∧
        (∃ alt ∈ trim r.text :: synonyms, ReadsLike r.flags.caseMode r.plurals alt m) ∧
        r.mode.Allows x m y := by
  have hbody : r.body synonyms
      = r.mode.place (alternatives r.plurals (trim r.text :: synonyms)) := by
    rw [body, h]
    rfl
  simp only [hbody, exists_place_iff, matches_alternatives (List.cons_ne_nil _ _)]

/-! ## 3. The result -/

/-- **A search for a text accepts just the texts it is meant to accept.**  Without a rule of use a
query is made only of a text that is not blank. -/
theorem isMatch_text_iff {s : Settings} {r : Request} {e : Option Expansion} {q : CompiledQuery}
    (hq : (s.compile r e).result = .ok q)
    (hrules : ∀ rule ∈ r.proximity, rule.isUsable = false) (text : String) :
    q.pattern.isMatch text = true ↔ s.IsTextResult r e text.toList := by
  rw [Settings.isMatch_iff hq,
    Request.exists_textBody_iff (Request.usableRules_eq_nil_iff.2 hrules)]
  simp only [Settings.mem_synonymsFor]
  exact ⟨fun h => ⟨h.1, h.2⟩, fun h => ⟨h.1, h.2⟩⟩

/-- A search with all that a search for a text can have: plurals, synonyms, words that must and must
not occur, and a rule of no use. -/
def lampRequest : Request where
  text := " lamp "
  mode := .wholeWord
  plurals := true
  synonyms := true
  required := [" light", ""]
  excluded := ["dark"]
  proximity := [⟨"a", " ", 2⟩]

def lampSynonyms : Expansion := ⟨[⟨"lamp", [" torch", "lamp"]⟩]⟩

/-- It finds the plural of a synonym, in other letters. -/
theorem isMatch_text_iff_torches :
    (∀ rule ∈ lampRequest.proximity, rule.isUsable = false) ∧
      ∃ q, (Settings.compile {} lampRequest (some lampSynonyms)).result = .ok q ∧
        q.pattern.isMatch "Two TORCHS, one LIGHT" = true ∧
        Settings.IsTextResult {} lampRequest (some lampSynonyms)
          "Two TORCHS, one LIGHT".toList := by
  have hrules : ∀ rule ∈ lampRequest.proximity, rule.isUsable = false := by decide
  have hq := Settings.compile_of_fits (s := {}) (r := lampRequest) (e := some lampSynonyms)
    (by decide) (by decide +kernel)
  have hmatch : (Settings.assemble {} lampRequest
      (Settings.synonymsFor {} lampRequest (some lampSynonyms))).pattern.isMatch
        "Two TORCHS, one LIGHT" = true := by decide +kernel
  exact ⟨hrules, _, hq, hmatch, (isMatch_text_iff hq hrules _).1 hmatch⟩

end VerseQuery
