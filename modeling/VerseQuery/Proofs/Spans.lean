/-
# What is highlighted

The spans of a query come from one pass over the text, and whether the text is a result is found
out without that pass.  Here the two are tied together.

* **One pass.**  At each place the pass goes on inside a span, goes on past a place where nothing
  begins, or begins a span (`Pattern.spansFrom_cons_cases`).  So the spans stand in order and apart,
  and no match is passed over: a match that has a character begins inside a span
  (`Pattern.exists_mem_spans_of_matches`).
* **No empty match.**  What a query searches for has a character in each of its matches
  (`Request.consumes_body`), so nothing is lost by leaving empty spans out.
* **Bytes.**  Counting characters in bytes keeps their order, and each place between two characters
  is a position of the text.

`byteSpans_highlight` puts the three together.
-/
import VerseQuery.Proofs.Expansions
import VerseQuery.Proofs.TextSearch
import VerseQuery.Proofs.WordPairs

namespace VerseQuery

open Text

/-! ## 1. One pass over the text -/

namespace Pattern

/-- Each match of the pattern has a character in it. -/
def Consumes (mode : CaseMode) {kind : PatternKind} (p : Pattern kind) : Prop :=
  ∀ x m y : List Char, p.Matches mode x m y → m ≠ []

section Pass

variable {mode : CaseMode} {p : Pattern .sequence} {span : Span}

/-- No span begins in what is covered. -/
theorem le_start_of_mem_spansFrom {covered : Nat} {x rest : List Char}
    (h : span ∈ p.spansFrom mode covered x.reverse rest) : x.length + covered ≤ span.start := by
  induction rest generalizing covered x with
  | nil => exact absurd h List.not_mem_nil
  | cons c rest ih =>
    have hbehind : ∀ {k : Nat}, span ∈ p.spansFrom mode k (x ++ [c]).reverse rest →
        x.length + 1 + k ≤ span.start := by
      intro k hk
      have hle := ih hk
      rwa [List.length_append, List.length_singleton] at hle
    rcases spansFrom_cons_cases mode p covered x c rest with
      ⟨k, rfl, hpass⟩ | ⟨rfl, -, hpass⟩ | ⟨rfl, d, m, y, -, -, hpass⟩
    · rw [hpass] at h
      have hle := hbehind h
      omega
    · rw [hpass] at h
      have hle := hbehind h
      omega
    · rw [hpass] at h
      rcases List.mem_cons.1 h with rfl | h
      · exact Nat.le_refl _
      · have hle := hbehind h
        omega

/-- The spans of a pass stand in order, and none begins before the one in front of it ends. -/
theorem pairwise_spansFrom (covered : Nat) (x rest : List Char) :
    (p.spansFrom mode covered x.reverse rest).Pairwise fun a b => a.stop ≤ b.start := by
  induction rest generalizing covered x with
  | nil => exact List.Pairwise.nil
  | cons c rest ih =>
    rcases spansFrom_cons_cases mode p covered x c rest with
      ⟨k, rfl, hpass⟩ | ⟨rfl, -, hpass⟩ | ⟨rfl, d, m, y, -, -, hpass⟩
    · rw [hpass]
      exact ih k (x ++ [c])
    · rw [hpass]
      exact ih 0 (x ++ [c])
    · rw [hpass, List.pairwise_cons]
      refine ⟨fun span hspan => ?_, ih m.length (x ++ [c])⟩
      have hle := le_start_of_mem_spansFrom hspan
      simp only [List.length_append, List.length_cons, List.length_nil] at hle ⊢
      omega

/-- **No match is passed over**: a match that does not begin in what is covered begins inside a
span. -/
theorem exists_mem_spansFrom_of_matches (hp : p.Consumes mode) {covered : Nat}
    {x rest a m y : List Char} (hrest : rest = a ++ m ++ y) (hm : p.Matches mode (x ++ a) m y)
    (hcovered : covered ≤ a.length) :
    ∃ span ∈ p.spansFrom mode covered x.reverse rest,
      span.start ≤ (x ++ a).length ∧ (x ++ a).length < span.stop := by
  induction rest generalizing covered x a with
  | nil =>
    obtain ⟨ha, -⟩ := List.append_eq_nil_iff.1 hrest.symm
    exact absurd (List.append_eq_nil_iff.1 ha).2 (hp _ _ _ hm)
  | cons c rest ih =>
    -- a match that begins farther on is found by the rest of the pass
    have hbehind : ∀ {k d a'}, a = d :: a' → k ≤ a'.length →
        ∃ span ∈ p.spansFrom mode k (x ++ [c]).reverse rest,
          span.start ≤ (x ++ a).length ∧ (x ++ a).length < span.stop := by
      rintro k d a' rfl hk
      obtain ⟨rfl, htail⟩ := List.cons.inj hrest
      have hsplit : x ++ c :: a' = x ++ [c] ++ a' := by simp
      rw [hsplit] at hm ⊢
      exact ih htail hm hk
    rcases spansFrom_cons_cases mode p covered x c rest with
      ⟨k, rfl, hpass⟩ | ⟨rfl, hnone, hpass⟩ | ⟨rfl, d, m', y', -, -, hpass⟩
    · rw [hpass]
      match a with
      | [] => exact absurd hcovered (Nat.not_succ_le_zero k)
      | d :: a' => exact hbehind rfl (Nat.le_of_succ_le_succ hcovered)
    · rw [hpass]
      match a with
      | [] =>
        rw [List.append_nil] at hm
        rcases hnone with hnone | hempty
        · exact absurd hm (hnone m y hrest)
        · exact absurd rfl (hp _ _ _ hempty)
      | d :: a' => exact hbehind rfl (Nat.zero_le _)
    · rw [hpass]
      by_cases hinside : a.length < (d :: m').length
      · refine ⟨_, List.mem_cons_self, ?_, ?_⟩
        · simp
        · simpa using hinside
      · match a with
        | [] => exact absurd (Nat.zero_lt_succ _) hinside
        | e :: a' =>
          obtain ⟨span, hspan, hcover⟩ :=
            hbehind rfl (Nat.le_of_succ_le_succ (Nat.le_of_not_lt hinside))
          exact ⟨span, List.mem_cons_of_mem _ hspan, hcover⟩

/-- The spans of a text stand in order and apart. -/
theorem pairwise_spans (text : List Char) :
    (p.spans mode text).Pairwise fun a b => a.stop ≤ b.start :=
  pairwise_spansFrom 0 [] text

/-- **Each match begins inside a span.** -/
theorem exists_mem_spans_of_matches (hp : p.Consumes mode) {x m y : List Char}
    (hm : p.Matches mode x m y) :
    ∃ span ∈ p.spans mode (x ++ m ++ y), span.start ≤ x.length ∧ x.length < span.stop :=
  exists_mem_spansFrom_of_matches (x := []) hp rfl hm (Nat.zero_le _)

end Pass

/-! ## 2. No match is empty -/

namespace Consumes

variable {mode : CaseMode} {p q : Pattern .sequence}

theorem append_left (h : p.Consumes mode) : (p ++ q).Consumes mode := by
  intro x m y hm
  have hpq : (p.append q).Matches mode x m y := hm
  rw [matches_append] at hpq
  obtain ⟨a, b, rfl, ha, -⟩ := hpq
  exact List.append_ne_nil_of_left_ne_nil (h _ _ _ ha) b

theorem anchor (a : Anchor) (h : p.Consumes mode) : (Pattern.anchor a p).Consumes mode :=
  fun _ _ _ hm => h _ _ _ hm.2

theorem take (set : CharSet) (times : Times) (h : p.Consumes mode) :
    (Pattern.take set times p).Consumes mode := by
  rintro x m y ⟨a, b, rfl, -, hb⟩
  exact List.append_ne_nil_of_right_ne_nil a (h _ _ _ hb)

/-- A stretch that reads like a text with a character has one too. -/
theorem ne_nil_of_sameText {a b : List Char} (hne : b ≠ []) (h : SameText mode a b) : a ≠ [] := by
  rintro rfl
  exact hne (List.eq_nil_of_length_eq_zero h.length_eq.symm)

theorem literal {cs : List Char} (hne : cs ≠ []) : (Pattern.literal cs).Consumes mode :=
  fun _ _ _ hm => ne_nil_of_sameText hne (matches_literal.1 hm)

theorem wholeWord {cs : List Char} (hne : cs ≠ []) : (Pattern.wholeWord cs).Consumes mode :=
  fun _ _ _ hm => ne_nil_of_sameText hne (matches_wholeWord.1 hm).1

theorem oneOf {ps : List (Pattern .sequence)} (hne : ps ≠ []) (h : ∀ p ∈ ps, p.Consumes mode) :
    (Pattern.oneOf ps).Consumes mode := by
  intro x m y hm
  obtain ⟨p, hp, hm⟩ := (matches_oneOf hne).1 hm
  exact h p hp _ _ _ hm

theorem alternatives (plurals : Bool) {texts : List String} (hne : texts ≠ [])
    (h : ∀ text ∈ texts, text.toList ≠ []) :
    (VerseQuery.alternatives plurals texts).Consumes mode := by
  have hany : (Pattern.oneOf (texts.map fun text => Pattern.literal text.toList)).Consumes mode := by
    refine oneOf (by simpa using hne) fun p hp => ?_
    obtain ⟨text, htext, rfl⟩ := List.mem_map.1 hp
    exact literal (h text htext)
  cases plurals with
  | false => exact hany
  | true => exact append_left hany

theorem place (h : p.Consumes mode) (place : MatchMode) : (place.place p).Consumes mode := by
  cases place with
  | contains => exact h
  | startsWith => exact anchor .textStart h
  | endsWith => exact append_left h
  | wholeWord => exact anchor .wordEdge (append_left h)
  | wordStartsWith => exact anchor .wordEdge (append_left h)
  | wordEndsWith => exact take .word .star (append_left h)

end Consumes

end Pattern

/-- **What a query searches for has a character in each of its matches.** -/
theorem Request.consumes_body {r : Request} {synonyms : List String} {mode : CaseMode}
    (hinput : r.hasInput = true) (hne : ∀ synonym ∈ synonyms, synonym.toList ≠ []) :
    (r.body synonyms).Consumes mode := by
  by_cases hrules : r.usableRules = []
  · have htext := trim_ne_empty (Request.text_ne_blank hinput hrules)
    rw [body, if_pos (List.isEmpty_iff.2 hrules)]
    exact .place (.alternatives r.plurals (List.cons_ne_nil _ _)
      (List.forall_mem_cons.2 ⟨htext, hne⟩)) r.mode
  · rw [body, if_neg (by simpa using hrules)]
    refine .oneOf (by simpa using hrules) fun p hp => ?_
    obtain ⟨_, hrule, rfl⟩ := List.mem_map.1 hp
    obtain ⟨rule, -, husable, rfl⟩ := mem_usableRules.1 hrule
    rw [ProximityRule.isUsable, Bool.and_eq_true, Bool.not_eq_true', Bool.not_eq_true'] at husable
    exact .append_left (.wholeWord (trim_ne_empty husable.1))

/-! ## 3. Bytes -/

theorem byteLength_cons (c : Char) (x : List Char) :
    byteLength (c :: x) = c.utf8Size + byteLength x :=
  rfl

theorem byteLength_append (x y : List Char) : byteLength (x ++ y) = byteLength x + byteLength y := by
  induction x with
  | nil => exact (Nat.zero_add _).symm
  | cons c x ih => rw [List.cons_append, byteLength_cons, ih, byteLength_cons, Nat.add_assoc]

theorem byteLength_pos {x : List Char} (hne : x ≠ []) : 0 < byteLength x := by
  obtain ⟨c, x, rfl⟩ := List.exists_cons_of_ne_nil hne
  exact Nat.add_pos_left c.utf8Size_pos _

/-- The bytes of a text are those that its UTF-8 form has. -/
theorem byteLength_toList (s : String) : byteLength s.toList = s.utf8ByteSize := by
  have hbytes : ∀ x : List Char, byteLength x = (String.ofList x).utf8ByteSize := by
    intro x
    induction x with
    | nil => rfl
    | cons c x ih =>
      rw [byteLength_cons, ih, ← List.singleton_append, String.ofList_append,
        String.utf8ByteSize_append]
      congr
      exact (String.utf8ByteSize_singleton).symm
  rw [hbytes, String.ofList_toList]

section Offsets

variable {text : List Char} {n k : Nat}

/-- A later place has the bytes of the earlier one in front of it, and those between. -/
theorem byteOffset_eq_add (h : n ≤ k) :
    byteOffset text k = byteOffset text n + byteLength ((text.take k).drop n) := by
  have hsplit : text.take k = text.take n ++ (text.take k).drop n := by
    have hcut := (List.take_append_drop n (text.take k)).symm
    rwa [List.take_take, Nat.min_eq_left h] at hcut
  have hbytes := congrArg byteLength hsplit
  rwa [byteLength_append] at hbytes

theorem byteOffset_le (h : n ≤ k) : byteOffset text n ≤ byteOffset text k := by
  rw [byteOffset_eq_add h]
  exact Nat.le_add_right _ _

theorem byteOffset_lt (h : n < k) (hk : k ≤ text.length) : byteOffset text n < byteOffset text k := by
  have hne : (text.take k).drop n ≠ [] := by
    rw [← List.length_pos_iff, List.length_drop, List.length_take]
    omega
  rw [byteOffset_eq_add (Nat.le_of_lt h)]
  exact Nat.lt_add_of_pos_right (byteLength_pos hne)

end Offsets

/-- Between two parts of a text there is a position of the text. -/
theorem isValid_byteLength {s : String} {x y : List Char} (h : s.toList = x ++ y) :
    String.Pos.Raw.IsValid s ⟨byteLength x⟩ := by
  refine String.Pos.Raw.isValid_iff_exists_append.2 ⟨.ofList x, .ofList y, ?_, ?_⟩
  · rw [← String.ofList_append, ← h, String.ofList_toList]
  · rw [String.rawEndPos, ← byteLength_toList, String.toList_ofList]

/-! ## 4. The result -/

/-- The two spans have a byte in common. -/
def Span.Overlaps (a b : Span) : Prop :=
  a.start < b.stop ∧ b.start < a.stop

/-- A span has a character in it and ends in the text. -/
theorem Pattern.bounds_of_mem_spans {mode : CaseMode} {p : Pattern .sequence} {text : List Char}
    {span : Span} (h : span ∈ p.spans mode text) :
    span.start < span.stop ∧ span.stop ≤ text.length := by
  obtain ⟨x, m, y, rfl, hne, -, rfl⟩ := exists_of_mem_spans h
  have hpos := List.length_pos_of_ne_nil hne
  simp only [List.length_append]
  omega

theorem Pattern.consumes_factored {mode : CaseMode} {p : Pattern .sequence}
    (h : p.Consumes mode) : (p.factored mode).Consumes mode :=
  fun x m y hm => h x m y (matches_factored.1 hm)

namespace QueryPattern

variable {q : QueryPattern} {text : String}

/-- The spans of a query stand in order and apart, in bytes too. -/
theorem pairwise_byteSpans :
    (q.byteSpans text).Pairwise fun a b => a.start < b.start ∧ a.stop ≤ b.start := by
  rw [byteSpans, List.pairwise_map, spans]
  split
  · refine (Pattern.pairwise_spans text.toList).imp_of_mem fun {a b} ha _ hab => ?_
    obtain ⟨hwidth, hstop⟩ := Pattern.bounds_of_mem_spans ha
    have hbefore : byteOffset text.toList a.stop ≤ byteOffset text.toList b.start := byteOffset_le hab
    exact ⟨Nat.lt_of_lt_of_le (byteOffset_lt hwidth hstop) hbefore, hbefore⟩
  · exact List.Pairwise.nil

/-- **No match is missed**: if the text keeps the constraints, each match of the body has its first
byte in a span. -/
theorem exists_mem_byteSpans (hbody : q.body.Consumes q.flags.caseMode)
    (hkept : q.constraintsHold text = true) {x m y : List Char} (htext : text.toList = x ++ m ++ y)
    (hm : q.body.Matches q.flags.caseMode x m y) :
    ∃ span ∈ q.byteSpans text, span.Overlaps ⟨byteLength x, byteLength (x ++ m)⟩ := by
  obtain ⟨span, hspan, hstart, hstop⟩ := Pattern.exists_mem_spans_of_matches (y := y)
    (Pattern.consumes_factored hbody) (Pattern.matches_factored.2 hm)
  rw [← htext] at hspan
  have hplace : byteOffset text.toList x.length = byteLength x := by
    rw [htext, List.append_assoc, byteOffset_append]
  have hmem : span ∈ q.spans text := by
    rw [spans, if_pos hkept]
    exact hspan
  refine ⟨span.inBytes text.toList, List.mem_map.2 ⟨span, hmem, rfl⟩, ?_, ?_⟩
  · have hle : byteOffset text.toList span.start ≤ byteLength x := hplace ▸ byteOffset_le hstart
    have hpos := byteLength_pos (hbody x m y hm)
    show byteOffset text.toList span.start < byteLength (x ++ m)
    rw [byteLength_append]
    omega
  · show byteLength x < byteOffset text.toList span.stop
    rw [← hplace]
    exact byteOffset_lt hstop (Pattern.bounds_of_mem_spans hspan).2

/-- Something is highlighted just in the texts that are results. -/
theorem byteSpans_ne_nil_iff (hbody : q.body.Consumes q.flags.caseMode) :
    q.byteSpans text ≠ [] ↔ q.isMatch text = true := by
  rw [isMatch, Bool.and_eq_true, Pattern.matchesText_iff]
  constructor
  · intro hne
    have hspans : q.spans text ≠ [] := fun hnil => hne (by rw [byteSpans, hnil, List.map_nil])
    obtain ⟨span, hspan⟩ := List.exists_mem_of_ne_nil _ hspans
    rw [spans] at hspan
    split at hspan
    · rename_i hkept
      obtain ⟨x, m, y, htext, -, hm, -⟩ := Pattern.exists_of_mem_spans hspan
      exact ⟨hkept, x, m, y, htext, Pattern.matches_factored.1 hm⟩
    · exact absurd hspan List.not_mem_nil
  · rintro ⟨hkept, x, m, y, htext, hm⟩
    obtain ⟨span, hspan, -⟩ := exists_mem_byteSpans hbody hkept htext hm
    exact List.ne_nil_of_mem hspan

end QueryPattern

/-- **What is highlighted** is some stretch of each result, and of results only; the spans are not
empty, lie between the characters of the text, and stand in order and apart; each is a match of what
is searched for; and each match has a part in one. -/
theorem byteSpans_highlight {s : Settings} {r : Request} {e : Option Expansion} {q : CompiledQuery}
    (hq : (s.compile r e).result = .ok q) (text : String) :
    (q.pattern.byteSpans text ≠ [] ↔ q.pattern.isMatch text = true) ∧
    (∀ span ∈ q.pattern.byteSpans text, span.start < span.stop ∧ span.stop ≤ text.utf8ByteSize ∧
      String.Pos.Raw.IsValid text ⟨span.start⟩ ∧ String.Pos.Raw.IsValid text ⟨span.stop⟩) ∧
    ((q.pattern.byteSpans text).Pairwise fun a b => a.start < b.start ∧ a.stop ≤ b.start) ∧
    (∀ span ∈ q.pattern.byteSpans text, ∃ x m y, text.toList = x ++ m ++ y ∧
      span = ⟨byteLength x, byteLength (x ++ m)⟩ ∧
      q.pattern.body.Matches q.pattern.flags.caseMode x m y) ∧
    (q.pattern.constraintsHold text = true → ∀ x m y, text.toList = x ++ m ++ y →
      q.pattern.body.Matches q.pattern.flags.caseMode x m y →
        ∃ span ∈ q.pattern.byteSpans text, span.Overlaps ⟨byteLength x, byteLength (x ++ m)⟩) := by
  have hbody : q.pattern.body.Consumes q.pattern.flags.caseMode := by
    rw [Settings.pattern_of_compile hq]
    exact Request.consumes_body (Settings.compile_eq_ok_iff.1 hq).1
      fun _ => s.ne_nil_of_mem_synonymsFor
  have hmatch : ∀ span ∈ q.pattern.byteSpans text, ∃ x m y, text.toList = x ++ m ++ y ∧ m ≠ [] ∧
      q.pattern.body.Matches q.pattern.flags.caseMode x m y ∧
      span = ⟨byteLength x, byteLength (x ++ m)⟩ := by
    intro span hspan
    have hspan' := Settings.exists_of_mem_byteSpans hq hspan
    rw [Settings.pattern_of_compile hq]
    exact hspan'
  refine ⟨QueryPattern.byteSpans_ne_nil_iff hbody, fun span hspan => ?_,
    QueryPattern.pairwise_byteSpans, fun span hspan => ?_,
    fun hkept x m y htext hm => QueryPattern.exists_mem_byteSpans hbody hkept htext hm⟩
  · obtain ⟨x, m, y, htext, hne, -, rfl⟩ := hmatch span hspan
    have hpos := byteLength_pos hne
    refine ⟨?_, ?_, isValid_byteLength (by rw [htext, List.append_assoc]),
      isValid_byteLength htext⟩
    · rw [byteLength_append]
      exact Nat.lt_add_of_pos_right hpos
    · rw [← byteLength_toList, htext, byteLength_append (x ++ m)]
      exact Nat.le_add_right _ _
  · obtain ⟨x, m, y, htext, -, hm, hspan⟩ := hmatch span hspan
    exact ⟨x, m, y, htext, hspan, hm⟩

/-- A search for words with characters of several bytes. -/
def emberRequest : Request where
  text := "glühen"
  mode := .wholeWord
  synonyms := true
  excluded := ["aus"]

def emberSynonyms : Expansion := ⟨[⟨"glühen", ["Ölfeuer"]⟩]⟩

/-- Both words are highlighted, and so the text is a result. -/
theorem byteSpans_highlight_ember : ∃ q,
    (Settings.compile {} emberRequest (some emberSynonyms)).result = .ok q ∧
      q.pattern.byteSpans "Es GLÜHEN ölfeuer" = [⟨3, 10⟩, ⟨11, 19⟩] ∧
      q.pattern.isMatch "Es GLÜHEN ölfeuer" = true := by
  have hq := Settings.compile_of_fits (s := {}) (r := emberRequest) (e := some emberSynonyms)
    (by decide +kernel) (by decide +kernel)
  have hspans : (Settings.assemble {} emberRequest
      (Settings.synonymsFor {} emberRequest (some emberSynonyms))).pattern.byteSpans
        "Es GLÜHEN ölfeuer" = [⟨3, 10⟩, ⟨11, 19⟩] := by decide +kernel
  have hne : (Settings.assemble {} emberRequest
      (Settings.synonymsFor {} emberRequest (some emberSynonyms))).pattern.byteSpans
        "Es GLÜHEN ölfeuer" ≠ [] := by
    rw [hspans]
    exact List.cons_ne_nil _ _
  exact ⟨_, hq, hspans, (byteSpans_highlight hq _).1.1 hne⟩

end VerseQuery
