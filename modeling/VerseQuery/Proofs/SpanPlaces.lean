/-
# Where highlights begin and end

A mode says where a match has to stand, and so where a highlight can.  For a mode that asks for
word edges at both ends of a match there is nothing more to it (`MatchMode.allows_of_matches`).  A
mode for part of a word asks for one edge only, and takes what is left of the word as well; that it
takes all of it hangs on how the search goes.

* **Word characters behind.**  Of the ways to take word characters the search prefers the one that
  takes most, so behind a preferred match there is none left (`Pattern.Prefers.not_startsInWord`).
* **Word characters in front.**  A match with a word character in front of it can be made longer by
  that character (`Pattern.matches_word_cons`), and the pass over the text would have found the longer
  one first, unless it ended a span there.  But no span ends inside a word
  (`Pattern.not_insideWord_of_mem_spans`).

A text has one start and one end, so a mode that asks for one of them leaves room for one highlight.
-/
import Mathlib.Data.List.Pairwise
import VerseQuery.Proofs.Spans

namespace VerseQuery

open Text

/-! ## 1. Places inside a word -/

/-- There is a word character on both sides of the place. -/
def InsideWord (x y : List Char) : Prop :=
  EndsInWord x ∧ StartsInWord y

/-- At a word edge there is one on one side only. -/
theorem WordEdge.not_insideWord {x y : List Char} (h : WordEdge x y) : ¬InsideWord x y :=
  fun hinside => h ⟨fun _ => hinside.2, fun _ => hinside.1⟩

theorem endsInWord_concat {x : List Char} {c : Char} :
    EndsInWord (x ++ [c]) ↔ isWordChar c = true := by
  simp [EndsInWord]

/-- In front of a place inside a word stands a word character. -/
theorem InsideWord.exists_eq_concat {x y : List Char} (h : InsideWord x y) :
    ∃ front c, x = front ++ [c] ∧ isWordChar c = true := by
  rcases List.eq_nil_or_concat' x with rfl | ⟨front, c, rfl⟩
  · obtain ⟨⟨c, hc, -⟩, -⟩ := h
    exact absurd hc (by simp)
  · exact ⟨front, c, rfl, endsInWord_concat.1 h.1⟩

/-! ## 2. Where a mode lets a match stand -/

section Places

variable {mode : CaseMode} {p : Pattern .sequence} {x m y : List Char}

theorem Pattern.matches_append_anchor {a : Anchor} :
    (p ++ Pattern.anchor a .done : Pattern .sequence).Matches mode x m y ↔
      p.Matches mode x m y ∧ a.Holds (x ++ m) y := by
  show (p.append (Pattern.anchor a .done)).Matches mode x m y ↔ _
  rw [matches_append]
  constructor
  · rintro ⟨b, rest, rfl, hp, ha, rfl⟩
    rw [List.append_nil]
    exact ⟨hp, ha⟩
  · rintro ⟨hp, ha⟩
    exact ⟨m, [], (List.append_nil m).symm, hp, ha, rfl⟩

/-- **A whole match stands where the mode wants it**, with what it takes of a word besides. -/
theorem MatchMode.allows_of_matches {place : MatchMode}
    (h : (place.place p).Matches mode x m y) : place.Allows x m y := by
  cases place with
  | contains => trivial
  | startsWith => exact h.1
  | endsWith => exact (Pattern.matches_append_anchor.1 h).2
  | wholeWord => exact ⟨h.1, (Pattern.matches_append_anchor.1 h.2).2⟩
  | wordStartsWith => exact h.1
  | wordEndsWith =>
    obtain ⟨a, b, rfl, -, hb⟩ := h
    have hedge := (Pattern.matches_append_anchor.1 hb).2
    rwa [List.append_assoc] at hedge

/-! ## 3. Word characters behind a match -/

/-- To take as many characters of a set as there are comes first. -/
theorem CharSet.exists_reach_eq_cons (mode : CaseMode) (set : CharSet) (nearer : List Cursor)
    (before rest : List Char) : ∃ farthest others,
      set.reach mode nearer before rest = farthest :: others ∧
        ∀ c ∈ farthest.after.head?, set.has mode c = false := by
  induction rest generalizing nearer before with
  | nil => exact ⟨_, _, rfl, by simp⟩
  | cons c rest ih =>
    rw [reach]
    split
    · exact ih _ _
    · rename_i hc
      refine ⟨_, _, rfl, fun d hd => ?_⟩
      obtain rfl : c = d := by simpa using hd
      simpa using hc

/-- **Behind a preferred match that takes word characters at its end there is none left.** -/
theorem Pattern.Prefers.not_startsInWord
    (h : (p.append (Pattern.take .word .star .done)).Prefers mode x m y) : ¬StartsInWord y := by
  rw [Prefers, ends_append, List.head?_flatMap] at h
  obtain ⟨mid, -, hmid⟩ := List.exists_of_findSome?_eq_some h
  obtain ⟨farthest, others, hreach, hnone⟩ :=
    CharSet.exists_reach_eq_cons mode .word [] mid.before mid.after
  have hends : (Pattern.take .word .star .done).ends mode mid = farthest :: others := by
    simp only [ends, CharSet.ends, hreach, List.flatMap_singleton']
  rw [hends, List.head?_cons, Option.some.injEq] at hmid
  rintro ⟨c, hc, hword⟩
  have hnot := hnone c (by rw [hmid]; exact hc)
  exact absurd (hword.symm.trans hnot) (by decide)

/-! ## 4. Word characters in front of a match -/

/-- A match that begins with word characters can begin one earlier, if a word character is there. -/
theorem Pattern.matches_word_cons {c : Char} (hc : isWordChar c = true)
    (h : (Pattern.take .word .star p).Matches mode (x ++ [c]) m y) :
    (Pattern.take .word .star p).Matches mode x (c :: m) y := by
  obtain ⟨a, b, rfl, ha, hb⟩ := h
  refine ⟨c :: a, b, rfl, List.forall_mem_cons.2 ⟨hc, ha⟩, ?_⟩
  rwa [List.append_assoc] at hb

/-- Of two spans one ends before the other begins. -/
theorem Pattern.apart_of_mem_spans {text : List Char} {a b : Span} (ha : a ∈ p.spans mode text)
    (hb : b ∈ p.spans mode text) (hne : a ≠ b) : a.stop ≤ b.start ∨ b.stop ≤ a.start := by
  have hsymm : Std.Symm fun a b : Span => a.stop ≤ b.start ∨ b.stop ≤ a.start :=
    ⟨fun _ _ => Or.symm⟩
  have hapart : (p.spans mode text).Pairwise
      fun a b : Span => a.stop ≤ b.start ∨ b.stop ≤ a.start := (pairwise_spans text).imp Or.inl
  exact hapart.forall ha hb hne

/-- **No span begins inside a word**, if none ends there and each match there can begin earlier. -/
theorem Pattern.not_insideWord_of_mem_spans (hp : p.Consumes mode)
    (hstop : ∀ x m y, p.Matches mode x m y → ¬InsideWord (x ++ m) y)
    (hearlier : ∀ x c m y, isWordChar c = true → p.Matches mode (x ++ [c]) m y →
      p.Matches mode x (c :: m) y)
    (h : ⟨x.length, (x ++ m).length⟩ ∈ p.spans mode (x ++ m ++ y)) : ¬InsideWord x (m ++ y) := by
  intro hinside
  obtain ⟨front, c, rfl, hc⟩ := hinside.exists_eq_concat
  obtain ⟨-, hprefers⟩ := prefers_of_mem_spans h
  -- the longer match begins inside a span, and that is another one
  obtain ⟨other, hother, hbegin, hend⟩ :=
    exists_mem_spans_of_matches hp (hearlier _ _ _ _ hc hprefers.matches)
  have hsplit : front ++ c :: m ++ y = front ++ [c] ++ m ++ y := by simp
  rw [hsplit] at hother
  have hne : other ≠ ⟨(front ++ [c]).length, (front ++ [c] ++ m).length⟩ := by
    rintro rfl
    simp only [List.length_append, List.length_cons, List.length_nil] at hbegin
    omega
  obtain ⟨x', m', y', htext, -, hprefers', rfl⟩ := exists_prefers_of_mem_spans hother
  have hlength : (x' ++ m').length = (front ++ [c]).length := by
    rcases apart_of_mem_spans hother h hne with hle | hle
    · simp only [List.length_append, List.length_cons, List.length_nil] at hle hend ⊢
      omega
    · simp only [List.length_append, List.length_cons, List.length_nil] at hle hbegin
      omega
  -- so the other span ends where this one begins, which is no place inside a word
  rw [List.append_assoc (front ++ [c])] at htext
  obtain ⟨hfront, hbehind⟩ := List.append_inj htext hlength.symm
  rw [hfront, hbehind] at hinside
  exact hstop _ _ _ hprefers'.matches hinside

end Places

/-! ## 5. The result -/

/-- The highlighted stretch `m` of `x ++ m ++ y` stands where the mode lets a highlight stand. -/
def MatchMode.Keeps (x m y : List Char) : MatchMode → Prop
  | contains => True
  | startsWith => x = []
  | endsWith => y = []
  | wholeWord => ¬InsideWord x (m ++ y) ∧ ¬InsideWord (x ++ m) y
  | wordStartsWith => ¬InsideWord x (m ++ y) ∧ ¬StartsInWord y
  | wordEndsWith => ¬InsideWord x (m ++ y) ∧ ¬InsideWord (x ++ m) y

theorem Pattern.Prefers.of_anchor {mode : CaseMode} {p : Pattern .sequence} {x m y : List Char}
    {a : Anchor} (h : (Pattern.anchor a p).Prefers mode x m y) : p.Prefers mode x m y := by
  rw [Prefers, ends] at h
  split at h
  · exact h
  · exact absurd h (by simp)

/-- **A span of a placed pattern stands where the mode lets a highlight stand.** -/
theorem MatchMode.keeps_of_mem_spans {mode : CaseMode} {place : MatchMode} {p : Pattern .sequence}
    {x m y : List Char} (hp : (place.place p).Consumes mode)
    (h : ⟨x.length, (x ++ m).length⟩ ∈ ((place.place p).factored mode).spans mode (x ++ m ++ y)) :
    place.Keeps x m y := by
  obtain ⟨-, hprefers⟩ := Pattern.prefers_of_mem_spans h
  have hallows : ∀ {x m y}, ((place.place p).factored mode).Matches mode x m y →
      place.Allows x m y :=
    fun hm => allows_of_matches (Pattern.matches_factored.1 hm)
  have hplace := hallows hprefers.matches
  cases place with
  | contains => trivial
  | startsWith => exact hplace
  | endsWith => exact hplace
  | wholeWord => exact ⟨hplace.1.not_insideWord, hplace.2.not_insideWord⟩
  | wordStartsWith =>
    have hword : (wordStartsWith.place p).factored mode =
        .anchor .wordEdge ((p.factored mode).append (.take .word .star .done)) :=
      congrArg (Pattern.anchor .wordEdge) (Pattern.factored_append mode p _)
    rw [hword] at hprefers
    exact ⟨hplace.not_insideWord, hprefers.of_anchor.not_startsInWord⟩
  | wordEndsWith =>
    refine ⟨?_, hplace.not_insideWord⟩
    exact Pattern.not_insideWord_of_mem_spans (Pattern.consumes_factored hp)
      (fun x m y hm => (hallows hm).not_insideWord)
      (fun x c m y hc hm => Pattern.matches_word_cons hc hm) h

/-- No more than one fits in a row of which no two can follow each other. -/
theorem length_le_one_of_pairwise {α : Type} {R : α → α → Prop} {l : List α} (h : l.Pairwise R)
    (hno : ∀ a ∈ l, ∀ b ∈ l, ¬R a b) : l.length ≤ 1 := by
  match l with
  | [] => exact Nat.zero_le 1
  | [_] => exact Nat.le_refl 1
  | a :: b :: rest =>
    have hb : b ∈ a :: b :: rest := List.mem_cons_of_mem a List.mem_cons_self
    exact absurd (List.rel_of_pairwise_cons h List.mem_cons_self) (hno a List.mem_cons_self b hb)

/-- **Highlights of a search for a text keep to their places.**  In a mode for words none begins or
ends inside a word, and none leaves a beginning that was asked for without the rest of its word.  In
a mode for the start or the end of the text there is one at most, and it begins at the start or ends
at the end. -/
theorem byteSpans_keep_to_places {s : Settings} {r : Request} {e : Option Expansion}
    {q : CompiledQuery} (hq : (s.compile r e).result = .ok q)
    (hrules : ∀ rule ∈ r.proximity, rule.isUsable = false) (text : String) :
    (∀ span ∈ q.pattern.byteSpans text, ∃ x m y, text.toList = x ++ m ++ y ∧
      span = ⟨byteLength x, byteLength (x ++ m)⟩ ∧ r.mode.Keeps x m y) ∧
    (r.mode = .startsWith → (q.pattern.byteSpans text).length ≤ 1 ∧
      ∀ span ∈ q.pattern.byteSpans text, span.start = 0) ∧
    (r.mode = .endsWith → (q.pattern.byteSpans text).length ≤ 1 ∧
      ∀ span ∈ q.pattern.byteSpans text, span.stop = text.utf8ByteSize) := by
  have hspan : ∀ span ∈ q.pattern.byteSpans text, ∃ x m y, text.toList = x ++ m ++ y ∧ m ≠ [] ∧
      span = ⟨byteLength x, byteLength (x ++ m)⟩ ∧ r.mode.Keeps x m y := by
    intro span hmem
    obtain ⟨x, m, y, htext, hchars, hbytes⟩ := QueryPattern.exists_of_mem_byteSpans hmem
    have hbody : q.pattern.body =
        r.mode.place (alternatives r.plurals (trim r.text :: s.synonymsFor r e)) := by
      rw [Settings.pattern_of_compile hq, Request.pattern, Request.body,
        Request.usableRules_eq_nil_iff.2 hrules]
      rfl
    have hconsumes : q.pattern.body.Consumes q.pattern.flags.caseMode := by
      rw [Settings.pattern_of_compile hq]
      exact Request.consumes_body (Settings.compile_eq_ok_iff.1 hq).1
        fun _ => s.ne_nil_of_mem_synonymsFor
    rw [hbody] at hchars hconsumes
    exact ⟨x, m, y, htext, (Pattern.prefers_of_mem_spans hchars).1, hbytes,
      MatchMode.keeps_of_mem_spans hconsumes hchars⟩
  have hwidth : ∀ span ∈ q.pattern.byteSpans text, span.start < span.stop := by
    intro span hmem
    obtain ⟨x, m, y, -, hne, rfl, -⟩ := hspan span hmem
    show byteLength x < byteLength (x ++ m)
    rw [byteLength_append]
    exact Nat.lt_add_of_pos_right (byteLength_pos hne)
  refine ⟨fun span hmem => ?_, fun hmode => ?_, fun hmode => ?_⟩
  · obtain ⟨x, m, y, htext, -, hbytes, hkeeps⟩ := hspan span hmem
    exact ⟨x, m, y, htext, hbytes, hkeeps⟩
  · have hstart : ∀ span ∈ q.pattern.byteSpans text, span.start = 0 := by
      intro span hmem
      obtain ⟨x, m, y, -, -, rfl, hkeeps⟩ := hspan span hmem
      rw [hmode] at hkeeps
      obtain rfl : x = [] := hkeeps
      rfl
    refine ⟨length_le_one_of_pairwise QueryPattern.pairwise_byteSpans ?_, hstart⟩
    rintro a ha b hb ⟨hbefore, -⟩
    rw [hstart a ha, hstart b hb] at hbefore
    exact absurd hbefore (Nat.lt_irrefl 0)
  · have hstop : ∀ span ∈ q.pattern.byteSpans text, span.stop = text.utf8ByteSize := by
      intro span hmem
      obtain ⟨x, m, y, htext, -, rfl, hkeeps⟩ := hspan span hmem
      rw [hmode] at hkeeps
      obtain rfl : y = [] := hkeeps
      rw [← byteLength_toList, htext, List.append_nil]
    refine ⟨length_le_one_of_pairwise QueryPattern.pairwise_byteSpans ?_, hstop⟩
    rintro a ha b hb ⟨-, hbefore⟩
    have hb' := hwidth b hb
    rw [hstop a ha] at hbefore
    rw [hstop b hb] at hb'
    omega

/-- A search for a word or its synonym, which begins with a mark, or their plurals. -/
def lightRequest (mode : MatchMode) : Request where
  text := "light"
  mode := mode
  plurals := true
  synonyms := true

def lightSynonyms : Expansion := ⟨[⟨"light", ["-glow"]⟩]⟩

/-- A mark behind a word is no place inside the word, and a text has one start. -/
theorem byteSpans_keep_to_places_glow :
    (∃ q, (Settings.compile {} (lightRequest .wholeWord) (some lightSynonyms)).result = .ok q ∧
      q.pattern.byteSpans "Délights: sun-glow, light." = [⟨14, 19⟩, ⟨21, 26⟩] ∧
      ∃ x m y, "Délights: sun-glow, light.".toList = x ++ m ++ y ∧
        (⟨14, 19⟩ : Span) = ⟨byteLength x, byteLength (x ++ m)⟩ ∧
        ¬InsideWord x (m ++ y) ∧ ¬InsideWord (x ++ m) y) ∧
    ∃ q, (Settings.compile {} (lightRequest .startsWith) (some lightSynonyms)).result = .ok q ∧
      q.pattern.byteSpans "Lights, light" = [⟨0, 6⟩] ∧
      (q.pattern.byteSpans "Lights, light").length ≤ 1 := by
  have hrules : ∀ mode, ∀ rule ∈ (lightRequest mode).proximity, rule.isUsable = false :=
    fun _ _ hrule => absurd hrule List.not_mem_nil
  have hword := Settings.compile_of_fits (s := {}) (r := lightRequest .wholeWord)
    (e := some lightSynonyms) (by decide) (by decide +kernel)
  have hstart := Settings.compile_of_fits (s := {}) (r := lightRequest .startsWith)
    (e := some lightSynonyms) (by decide) (by decide +kernel)
  have hspans : (Settings.assemble {} (lightRequest .wholeWord)
      (Settings.synonymsFor {} (lightRequest .wholeWord) (some lightSynonyms))).pattern.byteSpans
        "Délights: sun-glow, light." = [⟨14, 19⟩, ⟨21, 26⟩] := by decide +kernel
  have hmem : (⟨14, 19⟩ : Span) ∈ (Settings.assemble {} (lightRequest .wholeWord)
      (Settings.synonymsFor {} (lightRequest .wholeWord) (some lightSynonyms))).pattern.byteSpans
        "Délights: sun-glow, light." := by
    rw [hspans]
    exact List.mem_cons_self
  obtain ⟨x, m, y, htext, hbytes, hkeeps⟩ :=
    (byteSpans_keep_to_places hword (hrules .wholeWord) _).1 _ hmem
  obtain ⟨hlength, -⟩ :=
    (byteSpans_keep_to_places hstart (hrules .startsWith) "Lights, light").2.1 rfl
  exact ⟨⟨_, hword, hspans, x, m, y, htext, hbytes, hkeeps⟩,
    _, hstart, by decide +kernel, hlength⟩

end VerseQuery
