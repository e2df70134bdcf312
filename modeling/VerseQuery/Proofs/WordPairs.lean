/-
# What a search for pairs of words finds

A rule is written as separators, then at most so many words with separators behind each.  What that
means is said here by counting: between the two words of the rule there is a gap that begins and
ends with a separator and has few enough longest runs of word characters in it (`IsGap`).

The two descriptions agree because the two sets the gap is written with hold each character once
(`CharSet.has_asciiWord`, `CharSet.has_asciiSeparator`): a gap can be cut in one way only, and each
round of the repetition takes one run (`separators_andThen_upTo_iff`).
-/
import Mathlib.Data.List.Basic
import Mathlib.Data.List.TakeWhile
import VerseQuery.Proofs.Characters
import VerseQuery.Proofs.Compiled

namespace VerseQuery

open Text

/-! ## 1. Gaps -/

/-- How many longest runs of characters of the kind there are.  A run is counted at its end. -/
def runCount (kind : Char → Bool) : List Char → Nat
  | [] => 0
  | c :: rest => (if kind c && !rest.head?.any kind then 1 else 0) + runCount kind rest

/-- The characters can stand between two words with at most `bound` words between. -/
structure IsGap (word : Char → Bool) (bound : Nat) (g : List Char) : Prop where
  nonempty : g ≠ []
  start : ∀ c ∈ g.head?, word c = false
  stop : ∀ c ∈ g.getLast?, word c = false
  few : runCount word g ≤ bound

section Runs

variable {word : Char → Bool}

theorem runCount_separators_append {s t : List Char} (hs : ∀ c ∈ s, word c = false) :
    runCount word (s ++ t) = runCount word t := by
  induction s with
  | nil => rfl
  | cons c s ih =>
    obtain ⟨hc, hs⟩ := List.forall_mem_cons.1 hs
    simp only [List.cons_append, runCount, hc, Bool.false_and, Bool.false_eq_true, if_false,
      Nat.zero_add, ih hs]

/-- A run in front of something else is one run more. -/
theorem runCount_word_append {w t : List Char} (hne : w ≠ []) (hw : ∀ c ∈ w, word c = true)
    (ht : ∀ c ∈ t.head?, word c = false) : runCount word (w ++ t) = 1 + runCount word t := by
  induction w with
  | nil => exact absurd rfl hne
  | cons c w ih =>
    obtain ⟨hc, hw⟩ := List.forall_mem_cons.1 hw
    cases w with
    | nil =>
      have hany : t.head?.any word = false := by
        cases t with
        | nil => rfl
        | cons d t => exact ht d rfl
      simp [runCount, hc, hany]
    | cons d w =>
      have hd : word d = true := hw d List.mem_cons_self
      rw [← ih (List.cons_ne_nil _ _) hw]
      simp [runCount, hd]

end Runs

/-! ## 2. A gap as it is written -/

/-- At least one character, all of them of the kind or all of them not. -/
def AllOf (kind : Char → Bool) (holds : Bool) : Reading :=
  fun _ m _ => m ≠ [] ∧ ∀ c ∈ m, kind c = holds

/-- One word of a gap and the separators behind it. -/
def wordStep (word : Char → Bool) : Reading :=
  (AllOf word true).andThen (AllOf word false)

section Written

variable {word : Char → Bool}

/-- What is not empty and is of the kind begins and ends with characters of the kind. -/
theorem AllOf.ends {holds : Bool} {x m y : List Char} (h : AllOf word holds x m y) :
    (∀ c ∈ m.head?, word c = holds) ∧ ∀ c ∈ m.getLast?, word c = holds :=
  ⟨fun c hc => h.2 c (List.mem_of_mem_head? hc), fun c hc => h.2 c (List.mem_of_getLast? hc)⟩

/-- Steps make up one run each, and what they make up ends with a separator. -/
theorem runCount_of_upTo {bound : Nat} : ∀ {x m y : List Char},
    (wordStep word).upTo bound x m y →
      runCount word m ≤ bound ∧ ∀ c ∈ m.getLast?, word c = false := by
  induction bound with
  | zero =>
    rintro x m y rfl
    exact ⟨Nat.le_refl _, by simp⟩
  | succ bound ih =>
    rintro x m y (⟨step, rest, rfl, ⟨w, s, rfl, hw, hs⟩, hrest⟩ | rfl)
    · obtain ⟨hcount, hlast⟩ := ih hrest
      have hhead : ∀ c ∈ (s ++ rest).head?, word c = false := by
        rw [List.head?_append_of_ne_nil _ hs.1]
        exact hs.ends.1
      constructor
      · rw [List.append_assoc, runCount_word_append hw.1 hw.2 hhead,
          runCount_separators_append hs.2]
        omega
      · cases rest with
        | nil =>
          rw [List.append_nil, List.getLast?_append_of_ne_nil _ hs.1]
          exact hs.ends.2
        | cons c rest =>
          rw [List.getLast?_append_of_ne_nil _ (List.cons_ne_nil _ _)]
          exact hlast
    · exact ⟨Nat.zero_le _, by simp⟩

/-- What begins with a character of the kind begins with a longest run of them. -/
theorem exists_run {holds : Bool} {g : List Char} (hne : g ≠ [])
    (hg : ∀ c ∈ g.head?, word c = holds) : ∃ a t, g = a ++ t ∧
      (a ≠ [] ∧ ∀ c ∈ a, word c = holds) ∧ ∀ c ∈ t.head?, word c = !holds := by
  refine ⟨g.takeWhile (word · == holds), g.dropWhile (word · == holds),
    List.takeWhile_append_dropWhile.symm, ⟨?_, fun c hc => ?_⟩, fun c hc => ?_⟩
  · obtain ⟨c, rest, rfl⟩ := List.exists_cons_of_ne_nil hne
    simp [hg c rfl]
  · have h := List.mem_takeWhile_imp (p := (word · == holds)) hc
    exact beq_iff_eq.1 h
  · have h := List.head?_dropWhile_not (word · == holds) g
    rw [Option.mem_def.1 hc] at h
    cases holds <;> simpa using h

theorem upTo_nil {P : Reading} (bound : Nat) {x y : List Char} : P.upTo bound x [] y := by
  cases bound with
  | zero => exact rfl
  | succ bound => exact Or.inr rfl

/-- A gap can be cut into separators and steps.  Behind its first run of separators stands nothing,
or a word and a gap with one run less. -/
theorem exists_of_isGap : ∀ {bound : Nat} {x g y : List Char}, IsGap word bound g →
    (AllOf word false).andThen ((wordStep word).upTo bound) x g y
  | bound, x, g, y, h => by
    obtain ⟨s, t, rfl, hs, ht⟩ := exists_run h.nonempty h.start
    by_cases htnil : t = []
    · subst htnil
      exact ⟨s, [], rfl, hs, upTo_nil bound⟩
    · have ht : ∀ c ∈ t.head?, word c = true := ht
      obtain ⟨w, u, rfl, hw, hu⟩ := exists_run htnil ht
      have hune : u ≠ [] := by
        -- else the gap would end with the run
        rintro rfl
        have hlast : w.getLast hw.1 ∈ (s ++ (w ++ [])).getLast? := by
          rw [List.append_nil, List.getLast?_append_of_ne_nil _ hw.1]
          exact List.getLast?_eq_some_getLast hw.1
        have hword := hw.2 _ (List.getLast_mem hw.1)
        rw [h.stop _ hlast] at hword
        exact absurd hword (by decide)
      have hcount : runCount word (s ++ (w ++ u)) = 1 + runCount word u := by
        rw [runCount_separators_append hs.2, runCount_word_append hw.1 hw.2 hu]
      have hfew := h.few
      rw [hcount] at hfew
      match bound, hfew with
      | 0, hfew => omega
      | bound + 1, hfew =>
        have hgap : IsGap word bound u := by
          refine ⟨hune, hu, fun c hc => h.stop c ?_, by omega⟩
          rw [List.getLast?_append_of_ne_nil _ (List.append_ne_nil_of_right_ne_nil _ hune),
            List.getLast?_append_of_ne_nil _ hune]
          exact hc
        obtain ⟨s', b, rfl, hs', hb⟩ := exists_of_isGap (x := x ++ s ++ w) (y := y) hgap
        rw [List.append_assoc _ w] at hb
        exact ⟨s, w ++ (s' ++ b), rfl, hs,
          Or.inl ⟨w ++ s', b, by simp, ⟨w, s', rfl, hw, hs'⟩, hb⟩⟩

/-- **A gap as it is written is a gap.** -/
theorem separators_andThen_upTo_iff {bound : Nat} {x g y : List Char} :
    (AllOf word false).andThen ((wordStep word).upTo bound) x g y ↔ IsGap word bound g := by
  constructor
  · rintro ⟨s, steps, rfl, hs, hsteps⟩
    obtain ⟨hcount, hlast⟩ := runCount_of_upTo hsteps
    refine ⟨List.append_ne_nil_of_left_ne_nil hs.1 _, ?_, ?_, ?_⟩
    · rw [List.head?_append_of_ne_nil _ hs.1]
      exact hs.ends.1
    · cases steps with
      | nil =>
        rw [List.append_nil]
        exact hs.ends.2
      | cons c steps =>
        rw [List.getLast?_append_of_ne_nil _ (List.cons_ne_nil _ _)]
        exact hlast
    · rw [runCount_separators_append hs.2]
      exact hcount
  · exact exists_of_isGap

end Written

/-! ## 3. Pairs of words -/

namespace ProximityRule

theorem toInt_clampDistance (d : Int64) : (clampDistance d).toInt = max 1 (min 30 d.toInt) := by
  have hone : (1 : Int64).toInt = 1 := rfl
  have hthirty : (30 : Int64).toInt = 30 := rfl
  rw [clampDistance]
  split
  · rename_i h
    rw [Int64.lt_iff_toInt_lt, hone] at h
    rw [hone]
    omega
  · rename_i h₁
    rw [Int64.lt_iff_toInt_lt, hone] at h₁
    split
    · rename_i h₂
      rw [Int64.lt_iff_toInt_lt, hthirty] at h₂
      rw [hthirty]
      omega
    · rename_i h₂
      rw [Int64.lt_iff_toInt_lt, hthirty] at h₂
      omega

/-- How many words may stand between the words of the rule: from 1 to 30. -/
def bound (rule : ProximityRule) : Nat :=
  (max 1 (min 30 rule.maxDistance.toInt)).toNat

theorem distance_eq_bound (rule : ProximityRule) : rule.distance = rule.bound := by
  rw [distance, Int64.toNatClampNeg, toInt_clampDistance, bound]

/-- Bringing the distance within the bounds once more changes nothing. -/
theorem distance_normal (rule : ProximityRule) : rule.normal.distance = rule.bound := by
  rw [distance_eq_bound, bound, normal, toInt_clampDistance, bound]
  omega

/-- In `x ++ a ++ g ++ b ++ y` the words of the rule stand at `a` and `b`, each a word of the text,
and `g` is a gap that the rule allows. -/
structure JoinedBy (mode : CaseMode) (rule : ProximityRule) (x a g b y : List Char) : Prop where
  first : SameText mode a (trim rule.first).toList
  firstEdges : WordEdge x (a ++ g ++ b ++ y) ∧ WordEdge (x ++ a) (g ++ b ++ y)
  second : SameText mode b (trim rule.second).toList
  secondEdges : WordEdge (x ++ a ++ g) (b ++ y) ∧ WordEdge (x ++ a ++ g ++ b) y
  gap : IsGap (isGapWordChar mode) rule.bound g

theorem takes_asciiWord (mode : CaseMode) :
    (fun _ m _ => CharSet.asciiWord.Takes mode m .plus : Reading)
      = AllOf (isGapWordChar mode) true := by
  simp only [CharSet.Takes, CharSet.has_asciiWord]
  rfl

theorem takes_asciiSeparator (mode : CaseMode) :
    (fun _ m _ => CharSet.asciiSeparator.Takes mode m .plus : Reading)
      = AllOf (isGapWordChar mode) false := by
  simp only [CharSet.Takes, CharSet.has_asciiSeparator, Bool.not_eq_true']
  rfl

theorem matches_gapWord (mode : CaseMode) :
    (Pattern.last gapWord).Matches mode = wordStep (isGapWordChar mode) := by
  simp only [gapWord, Pattern.Matches, takes_asciiWord, takes_asciiSeparator, Reading.andThen_nil,
    wordStep]

/-- **A rule matches its two words with a gap between them.** -/
theorem matches_pattern {mode : CaseMode} {rule : ProximityRule} {x m y : List Char} :
    rule.normal.pattern.Matches mode x m y ↔
      ∃ a g b, m = a ++ g ++ b ∧ rule.JoinedBy mode x a g b y := by
  have hpattern : rule.normal.pattern.Matches mode
      = ((Pattern.wholeWord (trim rule.first).toList).Matches mode).andThen
          (((AllOf (isGapWordChar mode) false).andThen
              ((wordStep (isGapWordChar mode)).upTo rule.bound)).andThen
            ((Pattern.wholeWord (trim rule.second).toList).Matches mode)) := by
    show (Pattern.append (Pattern.wholeWord (trim rule.first).toList) (.take .asciiSeparator .plus
      (.upTo rule.normal.distance (.last gapWord)
        (Pattern.wholeWord (trim rule.second).toList)))).Matches mode = _
    rw [Pattern.matches_append, Reading.andThen_assoc, Pattern.Matches, Pattern.Matches,
      takes_asciiSeparator, matches_gapWord, distance_normal]
  rw [hpattern]
  constructor
  · rintro ⟨a, _, rfl, ha, g, b, rfl, hg, hb⟩
    obtain ⟨hfirst, hstart, hstop⟩ := Pattern.matches_wholeWord.1 ha
    obtain ⟨hsecond, hedges⟩ := Pattern.matches_wholeWord.1 hb
    exact ⟨a, g, b, by simp, hfirst, ⟨by simpa using hstart, hstop⟩, hsecond, hedges,
      separators_andThen_upTo_iff.1 hg⟩
  · rintro ⟨a, g, b, rfl, h⟩
    refine ⟨a, g ++ b, by simp, Pattern.matches_wholeWord.2 ⟨h.first, ?_, h.firstEdges.2⟩, g, b,
      rfl, separators_andThen_upTo_iff.2 h.gap,
      Pattern.matches_wholeWord.2 ⟨h.second, h.secondEdges⟩⟩
    simpa using h.firstEdges.1

end ProximityRule

/-! ## 4. The result -/

/-- One of the rules of use has its two words in the text, at the five parts named. -/
def Request.Joins (r : Request) (x a g b y : List Char) : Prop :=
  ∃ rule ∈ r.proximity, rule.isUsable = true ∧ rule.JoinedBy r.flags.caseMode x a g b y

/-- **What a search for pairs of words finds**: one of the pairs, with a gap between. -/
theorem Request.matches_body_of_rules {r : Request} (h : r.usableRules ≠ [])
    {synonyms : List String} {x m y : List Char} :
    (r.body synonyms).Matches r.flags.caseMode x m y ↔
      ∃ a g b, m = a ++ g ++ b ∧ r.Joins x a g b y := by
  rw [body_of_rules h, proximityBody, Pattern.matches_oneOf (by simpa using h)]
  constructor
  · rintro ⟨p, hp, hm⟩
    obtain ⟨_, hrule, rfl⟩ := List.mem_map.1 hp
    obtain ⟨rule, hmem, husable, rfl⟩ := mem_usableRules.1 hrule
    obtain ⟨a, g, b, rfl, hjoin⟩ := ProximityRule.matches_pattern.1 hm
    exact ⟨a, g, b, rfl, rule, hmem, husable, hjoin⟩
  · rintro ⟨a, g, b, rfl, rule, hmem, husable, hjoin⟩
    exact ⟨_, List.mem_map.2 ⟨_, mem_usableRules.2 ⟨rule, hmem, husable, rfl⟩, rfl⟩,
      ProximityRule.matches_pattern.2 ⟨a, g, b, rfl, hjoin⟩⟩

/-- The five parts of a text where a pair stands are the parts of a stretch that is found. -/
theorem Request.exists_body_iff_joins {r : Request} (h : r.usableRules ≠ [])
    {synonyms : List String} {text : List Char} :
    (∃ x m y, text = x ++ m ++ y ∧ (r.body synonyms).Matches r.flags.caseMode x m y) ↔
      ∃ x a g b y, text = x ++ a ++ g ++ b ++ y ∧ r.Joins x a g b y := by
  simp only [matches_body_of_rules h]
  constructor
  · rintro ⟨x, _, y, h, a, g, b, rfl, hjoin⟩
    exact ⟨x, a, g, b, y, by simpa using h, hjoin⟩
  · rintro ⟨x, a, g, b, y, h, hjoin⟩
    exact ⟨x, a ++ g ++ b, y, by simpa using h, a, g, b, rfl, hjoin⟩

/-- **A search for pairs of words accepts the texts where one of the pairs stands close together**,
and each span goes from the first word of a pair to the second. -/
theorem isMatch_pairs_iff {s : Settings} {r : Request} {e : Option Expansion} {q : CompiledQuery}
    (hq : (s.compile r e).result = .ok q)
    (hrule : ∃ rule ∈ r.proximity, rule.isUsable = true) (text : String) :
    (q.pattern.isMatch text = true ↔ r.KeptBy text.toList ∧
      ∃ x a g b y, text.toList = x ++ a ++ g ++ b ++ y ∧ r.Joins x a g b y) ∧
    ∀ span ∈ q.pattern.byteSpans text, ∃ x a g b y,
      text.toList = x ++ a ++ g ++ b ++ y ∧ r.Joins x a g b y ∧
        span = ⟨byteLength x, byteLength (x ++ a ++ g ++ b)⟩ := by
  have hrules : r.usableRules ≠ [] := by
    obtain ⟨rule, hmem, husable⟩ := hrule
    exact List.ne_nil_of_mem (Request.mem_usableRules.2 ⟨rule, hmem, husable, rfl⟩)
  constructor
  · rw [Settings.isMatch_iff hq, Request.exists_body_iff_joins hrules]
  · intro span hspan
    obtain ⟨x, m, y, h, -, hm, hbytes⟩ := Settings.exists_of_mem_byteSpans hq hspan
    obtain ⟨a, g, b, rfl, hjoin⟩ := (Request.matches_body_of_rules hrules).1 hm
    exact ⟨x, a, g, b, y, by simpa using h, hjoin, by simpa using hbytes⟩

/-- A search with a rule of no use and one whose distance is out of bounds. -/
def fearRequest : Request where
  required := ["then"]
  proximity := [⟨"", "x", 1⟩, ⟨" fear", "not ", -5⟩]

/-- It finds its words with one other word between them. -/
theorem isMatch_pairs_iff_fear :
    (∃ rule ∈ fearRequest.proximity, rule.isUsable = true) ∧
      ∃ q, (Settings.compile {} fearRequest none).result = .ok q ∧
        q.pattern.isMatch "Fear, then, NOT!" = true ∧
        (fearRequest.KeptBy "Fear, then, NOT!".toList ∧ ∃ x a g b y,
          "Fear, then, NOT!".toList = x ++ a ++ g ++ b ++ y ∧ fearRequest.Joins x a g b y) ∧
        q.pattern.byteSpans "Fear, then, NOT!" = [⟨0, 15⟩] := by
  have hrule : ∃ rule ∈ fearRequest.proximity, rule.isUsable = true := by decide
  have hq := Settings.compile_of_fits (s := {}) (r := fearRequest) (e := none) (by decide)
    (by decide +kernel)
  have hmatch : (Settings.assemble {} fearRequest
      (Settings.synonymsFor {} fearRequest none)).pattern.isMatch "Fear, then, NOT!" = true := by
    decide +kernel
  exact ⟨hrule, _, hq, hmatch, (isMatch_pairs_iff hq hrule _).1.1 hmatch, by decide +kernel⟩

end VerseQuery
