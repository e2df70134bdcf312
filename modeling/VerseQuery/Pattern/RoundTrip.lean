/-
# What is written is read back

Every tree is read back from its text: no text spells two trees, and nothing in a literal is taken
for a sign with a meaning of its own.  The proof has two parts, one for each direction of writing.

* **Tokens.**  A token is the longest that fits at the front of its text, because no token's text
  begins with a sign that could belong to the one before it (`IsFree`).  So the tokens of a row are
  scanned back from its text (`scan?_flatMap_text`).
* **Trees.**  Reading the tokens of a sequence puts the sequence in front of what was read before,
  and reading those of a choice makes it the body of the bracket around it (`Reads`).
-/
import VerseQuery.Pattern.Reader

namespace VerseQuery

/-! ## 1. Tokens -/

namespace Token

/-- A text that no token in front of it can take a part of. -/
def IsFree (rest : List Char) : Prop :=
  ∀ c ∈ rest.head?, c ≠ '?' ∧ c ≠ '*' ∧ c ≠ '+' ∧ c ≠ '{'

theorem scanTimes_text {times : Times} {rest : List Char} (h : IsFree rest) :
    scanTimes (times.text ++ rest) = (times, rest) := by
  cases times with
  | once =>
    match rest with
    | [] => rfl
    | c :: rest =>
      obtain ⟨h₁, h₂, h₃, -⟩ := h c rfl
      simp [Times.text, scanTimes, h₁, h₂, h₃]
  | _ => rfl

theorem scanSet?_text (set : CharSet) (rest : List Char) :
    scanSet? (set.text ++ rest) = some (set, rest) := by
  cases set with
  | char c =>
    by_cases h : metaChars.contains c = true
    · have hw : c ≠ 'w' := by rintro rfl; exact absurd h (by decide)
      simp [CharSet.text, escapeChar, scanSet?, hw, List.contains_iff_mem.1 h]
    · have h' : c ∉ metaChars := fun hc => h (List.contains_iff_mem.2 hc)
      have hs : c ≠ '\\' ∧ c ≠ '[' ∧ c ≠ '.' := by
        refine ⟨?_, ?_, ?_⟩ <;> rintro rfl <;> exact absurd (by decide) h
      simp [CharSet.text, escapeChar, scanSet?, h', hs]
  | _ => rfl

theorem scanBound?_free {rest : List Char} (h : IsFree rest) :
    scanBound? rest = some (none, rest) := by
  match rest with
  | [] => rfl
  | c :: rest =>
    have hc : ('{' == c) = false := by simpa using fun e => (h c rfl).2.2.2 e.symm
    have hprefix : ['{', '0', ','].isPrefixOf? (c :: rest) = none := by
      show (if '{' == c then ['0', ','].isPrefixOf? rest else none) = none
      rw [hc]
      rfl
    simp [scanBound?, hprefix]

theorem scanBound?_boundText (bound : Nat) (rest : List Char) :
    scanBound? (boundText bound ++ rest) = some (some bound, rest) := by
  have hdigits : ∀ c ∈ Nat.toDigits 10 bound, c.isDigit = true :=
    fun c hc => Nat.isDigit_of_mem_toDigits (by decide) (by decide) hc
  have htake : (Nat.toDigits 10 bound ++ '}' :: rest).takeWhile Char.isDigit
      = Nat.toDigits 10 bound := by
    rw [List.takeWhile_append_of_pos hdigits]
    simp
  have hdrop : (Nat.toDigits 10 bound ++ '}' :: rest).dropWhile Char.isDigit = '}' :: rest := by
    rw [List.dropWhile_append_of_pos hdigits]
    simp
  have hvalue : Nat.ofDigitChars 10 (Nat.toDigits 10 bound) 0 = bound :=
    Nat.ofDigitChars_toDigits (by decide) (by decide)
  have htext : boundText bound ++ rest
      = '{' :: '0' :: ',' :: (Nat.toDigits 10 bound ++ '}' :: rest) := by
    simp [boundText]
  have hprefix : ['{', '0', ','].isPrefixOf? (boundText bound ++ rest)
      = some (Nat.toDigits 10 bound ++ '}' :: rest) := by
    rw [htext]
    rfl
  simp only [scanBound?, hprefix, htake, hdrop]
  cases hds : Nat.toDigits 10 bound with
  | nil => exact absurd hds Nat.toDigits_ne_nil
  | cons d ds =>
    rw [hds] at hvalue
    simp [hvalue]

/-- The first character of a set's text has no other meaning there. -/
theorem exists_text_eq_cons (set : CharSet) : ∃ c cs, set.text = c :: cs ∧
    c ∉ ['?', '*', '+', '{', '^', '$', '|', '(', ')'] ∧
    (c = '\\' → cs ≠ [] ∧ cs.head? ≠ some 'b') := by
  cases set with
  | char c =>
    by_cases h : c ∈ metaChars
    · refine ⟨'\\', [c], by simp [CharSet.text, escapeChar, h], by decide, fun _ => ⟨by simp, ?_⟩⟩
      intro hb
      obtain rfl : c = 'b' := by simpa using hb
      exact absurd h (by decide)
    · refine ⟨c, [], by simp [CharSet.text, escapeChar, h], fun hc => h ?_, ?_⟩
      · have hmeta : ∀ x ∈ ['?', '*', '+', '{', '^', '$', '|', '(', ')'], x ∈ metaChars := by
          simp [metaChars]
        exact hmeta c hc
      · rintro rfl
        exact absurd (by decide) h
  | _ => exact ⟨_, _, rfl, by decide, by decide⟩

theorem isFree_text (t : Token) (rest : List Char) : IsFree (t.text ++ rest) := by
  intro x hx
  cases t with
  | take set times =>
    obtain ⟨c, cs, h, hc, -⟩ := exists_text_eq_cons set
    obtain rfl : c = x := by simpa [text, h] using hx
    simp_all
  | anchor a =>
    cases a <;> simp only [text, Anchor.text, List.cons_append, List.head?_cons,
      Option.mem_some_iff] at hx <;> subst hx <;> decide
  | opening o =>
    cases o with
    | group =>
      simp only [text, Opening.text, List.cons_append, List.head?_cons, Option.mem_some_iff] at hx
      subst hx
      decide
    | ahead holds =>
      cases holds <;> simp only [text, Opening.text, List.cons_append, List.head?_cons,
        Option.mem_some_iff] at hx <;> subst hx <;> decide
  | bar =>
    simp only [text, List.cons_append, List.head?_cons, Option.mem_some_iff] at hx
    subst hx
    decide
  | close bound =>
    cases bound <;> simp only [text, List.cons_append, List.head?_cons,
      Option.mem_some_iff] at hx <;> subst hx <;> decide

theorem next?_take (set : CharSet) (times : Times) {rest : List Char} (h : IsFree rest) :
    next? (set.text ++ (times.text ++ rest)) = some (take set times, rest) := by
  have hset := scanSet?_text set (times.text ++ rest)
  obtain ⟨c, cs, hcs, hc, hb⟩ := exists_text_eq_cons set
  rw [hcs] at hset ⊢
  simp only [List.mem_cons, not_or] at hc
  simp only [List.cons_append] at hset ⊢
  simp [next?, hc, hset, scanTimes_text h]
  exact fun e => ⟨(hb e).2, fun hn => absurd hn (hb e).1⟩

/-- A token is scanned back from its text. -/
theorem next?_text (t : Token) {rest : List Char} (h : IsFree rest) :
    next? (t.text ++ rest) = some (t, rest) := by
  cases t with
  | take set times => simpa [text] using next?_take set times h
  | anchor a => cases a <;> rfl
  | opening o =>
    cases o with
    | group => rfl
    | ahead holds => cases holds <;> rfl
  | bar => rfl
  | close bound =>
    cases bound with
    | none => simp [text, next?, scanBound?_free h]
    | some n => simp [text, next?, scanBound?_boundText]

theorem text_ne_nil (t : Token) : t.text ≠ [] := by
  cases t with
  | take set times =>
    obtain ⟨c, cs, hcs, -⟩ := exists_text_eq_cons set
    simp [text, hcs]
  | anchor a => cases a <;> decide
  | opening o =>
    cases o with
    | group => decide
    | ahead holds => cases holds <;> decide
  | bar => decide
  | close bound => cases bound <;> simp [text]

theorem isFree_flatMap_text : ∀ ts : List Token, IsFree (ts.flatMap text)
  | [] => fun c hc => by simp at hc
  | t :: ts => by simpa using isFree_text t (ts.flatMap text)

theorem scanUpTo_flatMap_text (ts : List Token) (fuel : Nat)
    (h : (ts.flatMap text).length ≤ fuel) : scanUpTo fuel (ts.flatMap text) = some ts := by
  induction ts generalizing fuel with
  | nil => cases fuel <;> rfl
  | cons t ts ih =>
    have hpos := List.length_pos_iff.2 t.text_ne_nil
    simp only [List.flatMap_cons, List.length_append] at h ⊢
    match fuel, hx : t.text ++ ts.flatMap text with
    | _, [] => exact absurd (List.append_eq_nil_iff.1 hx).1 t.text_ne_nil
    | 0, _ => omega
    | fuel + 1, c :: cs =>
      rw [scanUpTo, ← hx, next?_text t (isFree_flatMap_text ts)]
      · simp [ih fuel (by omega)]
      · simp

/-- **A row of tokens is scanned back from its text.** -/
theorem scan?_flatMap_text (ts : List Token) : scan? (ts.flatMap text) = some ts :=
  scanUpTo_flatMap_text ts _ (Nat.le_refl _)

end Token

/-! ## 2. Trees -/

namespace Pattern

namespace ReadState

theorem setCurrent_current (state : ReadState) : state.setCurrent state.current = state := by
  cases state <;> rfl

theorem setCurrent_setCurrent (state : ReadState) (p q : Pattern .sequence) :
    (state.setCurrent p).setCurrent q = state.setCurrent q := by
  cases state <;> rfl

theorem current_setCurrent (state : ReadState) (p : Pattern .sequence) :
    (state.setCurrent p).current = p := by
  cases state <;> rfl

end ReadState

/-- What reading the tokens of a tree does: a sequence is put in front of the current one, and a
choice becomes the body of the bracket around it. -/
def Reads : {kind : PatternKind} → Pattern kind → Prop
  | .sequence, p => ∀ ts state, readState ts = some state →
      readState (p.tokens ++ ts) = some (state.setCurrent (p.append state.current))
  | .choice, p => ∀ ts b around, readState ts = some (.inside b around) →
      b.others = none → b.current = done →
      ∃ b', readState (p.tokens ++ ts) = some (.inside b' around) ∧
        b'.body = p ∧ b'.bound = b.bound ∧ b'.behind = b.behind

/-- Reading a bracket, from its closing token to its opening one, puts what it makes in front of
the current sequence. -/
theorem readState_bracket (o : Opening) (bound : Option Nat) (p : Pattern .sequence)
    {body : Pattern .choice} {ts : List Token} {state : ReadState}
    (h : readState ts = some state) (hbody : Reads body)
    (hp : ∀ b : OpenBracket, b.body = body → b.bound = bound → b.behind = state.current →
      b.opened o = some p) :
    readState (.opening o :: (body.tokens ++ .close bound :: ts)) = some (state.setCurrent p) := by
  cases state with
  | outside q =>
    have hclose : readState (.close bound :: ts) = some (.inside ⟨bound, none, done, q⟩ []) := by
      simp [readState, h, ReadState.step]
    obtain ⟨b, hread, h₁, h₂, h₃⟩ := hbody _ _ _ hclose rfl rfl
    simp [readState, hread, ReadState.step, hp b h₁ h₂ h₃, ReadState.setCurrent]
  | inside a around =>
    have hclose : readState (.close bound :: ts)
        = some (.inside ⟨bound, none, done, a.current⟩ (a :: around)) := by
      simp [readState, h, ReadState.step]
    obtain ⟨b, hread, h₁, h₂, h₃⟩ := hbody _ _ _ hclose rfl rfl
    simp [readState, hread, ReadState.step, hp b h₁ h₂ h₃, ReadState.setCurrent]

theorem reads {kind : PatternKind} (p : Pattern kind) : Reads p := by
  induction p with
  | done => exact fun ts state h => by simpa [tokens, append, ReadState.setCurrent_current] using h
  | take set times next ih =>
    intro ts state h
    simp [tokens, readState, ih ts state h, ReadState.step, ReadState.setCurrent_setCurrent,
      ReadState.current_setCurrent, append]
  | anchor a next ih =>
    intro ts state h
    simp [tokens, readState, ih ts state h, ReadState.step, ReadState.setCurrent_setCurrent,
      ReadState.current_setCurrent, append]
  | group body next hbody ih =>
    intro ts state h
    have hread := readState_bracket .group none (group body (next.append state.current))
      (ih ts state h) hbody
      (fun b h₁ h₂ h₃ => by simp [OpenBracket.opened, h₁, h₂, h₃, ReadState.current_setCurrent])
    simpa [tokens, append, ReadState.setCurrent_setCurrent] using hread
  | upTo bound body next hbody ih =>
    intro ts state h
    have hread := readState_bracket .group (some bound)
      (upTo bound body (next.append state.current)) (ih ts state h) hbody
      (fun b h₁ h₂ h₃ => by simp [OpenBracket.opened, h₁, h₂, h₃, ReadState.current_setCurrent])
    simpa [tokens, append, ReadState.setCurrent_setCurrent] using hread
  | ahead holds body next hbody ih =>
    intro ts state h
    have hread := readState_bracket (.ahead holds) none
      (ahead holds body (next.append state.current)) (ih ts state h) hbody
      (fun b h₁ h₂ h₃ => by simp [OpenBracket.opened, h₁, h₂, h₃, ReadState.current_setCurrent])
    simpa [tokens, append, ReadState.setCurrent_setCurrent] using hread
  | last only ih =>
    intro ts b around h ho hc
    refine ⟨{ b with current := only }, ?_, ?_, rfl, rfl⟩
    · have hread := ih ts _ h
      simpa [tokens, ReadState.setCurrent, ReadState.current, hc, append_done] using hread
    · simp [OpenBracket.body, ho]
  | orElse first others hfirst hothers =>
    intro ts b around h ho hc
    obtain ⟨b', hread, h₁, h₂, h₃⟩ := hothers ts b around h ho hc
    have hbar : readState (.bar :: (others.tokens ++ ts))
        = some (.inside { b' with others := some others, current := done } around) := by
      simp [readState, hread, ReadState.step, h₁]
    refine ⟨{ b' with others := some others, current := first }, ?_, rfl, h₂, h₃⟩
    have hread' := hfirst _ _ hbar
    simpa [tokens, ReadState.setCurrent, ReadState.current, append_done] using hread'

/-- A tree is read back from its tokens. -/
theorem ofTokens?_tokens (p : Pattern .sequence) : ofTokens? p.tokens = some p := by
  have hread := reads p [] (.outside done) rfl
  simp only [List.append_nil] at hread
  simp [ofTokens?, hread, ReadState.setCurrent, ReadState.current, append_done]

/-- **A tree is read back from its text.** -/
theorem read?_chars (p : Pattern .sequence) : read? p.chars = some p := by
  simp [read?, chars, Token.scan?_flatMap_text, ofTokens?_tokens]

/-- No two trees have one text. -/
theorem chars_injective {p q : Pattern .sequence} (h : p.chars = q.chars) : p = q := by
  have hread := read?_chars p
  rw [h, read?_chars q] at hread
  exact (Option.some.inj hread).symm

end Pattern

end VerseQuery
