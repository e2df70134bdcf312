/-
# The grammar of pattern text

Pattern text by its rules, one for each form of a pattern (`Pattern.Spells`), without a scanner and
without a stack: a character with a meaning of its own stands for itself behind a backslash only,
what opens a group is closed again, and alternatives stand inside a group.

A grammar may let a text be read in several ways.  This one does not: the texts of a pattern are the
one the printer writes (`spells_iff`), and so no text spells two patterns (`Spells.unique`).

Two views of a pattern say what is in its text: how deep its groups are open (`depthAfter`), and
which literals it holds, each a longest run of single characters (`Pattern.literals`).
-/
import VerseQuery.Pattern.RoundTrip
import VerseQuery.Text.Blank

namespace VerseQuery

open Text

/-! ## 1. The rules -/

/-- How a character set is written.  Of the characters, those with a meaning of their own have a
backslash in front, and no others. -/
inductive CharSet.Written : CharSet → List Char → Prop where
  | plain {c : Char} (h : c ∉ metaChars) : Written (.char c) [c]
  | escaped {c : Char} (h : c ∈ metaChars) : Written (.char c) ['\\', c]
  | word : Written .word ['\\', 'w']
  | any : Written .any ['.']
  | asciiWord : Written .asciiWord "[0-9A-Za-z_]".toList
  | asciiSeparator : Written .asciiSeparator "[^0-9A-Za-z_]".toList

/-- The text spells the pattern. -/
inductive Pattern.Spells : {kind : PatternKind} → List Char → Pattern kind → Prop where
  | done : Spells [] .done
  | take {set : CharSet} {times : Times} {next : Pattern .sequence} {s cs : List Char}
      (hset : set.Written s) (hnext : Spells cs next) :
      Spells (s ++ times.text ++ cs) (.take set times next)
  | anchor {a : Anchor} {next : Pattern .sequence} {cs : List Char} (hnext : Spells cs next) :
      Spells (a.text ++ cs) (.anchor a next)
  | group {body : Pattern .choice} {next : Pattern .sequence} {bs cs : List Char}
      (hbody : Spells bs body) (hnext : Spells cs next) :
      Spells (['(', '?', ':'] ++ bs ++ [')'] ++ cs) (.group body next)
  | upTo {bound : Nat} {body : Pattern .choice} {next : Pattern .sequence} {bs cs : List Char}
      (hbody : Spells bs body) (hnext : Spells cs next) :
      Spells (['(', '?', ':'] ++ bs ++ [')', '{', '0', ','] ++ Nat.toDigits 10 bound ++ ['}'] ++ cs)
        (.upTo bound body next)
  | ahead {body : Pattern .choice} {next : Pattern .sequence} {bs cs : List Char}
      (hbody : Spells bs body) (hnext : Spells cs next) :
      Spells (['(', '?', '='] ++ bs ++ [')'] ++ cs) (.ahead true body next)
  | notAhead {body : Pattern .choice} {next : Pattern .sequence} {bs cs : List Char}
      (hbody : Spells bs body) (hnext : Spells cs next) :
      Spells (['(', '?', '!'] ++ bs ++ [')'] ++ cs) (.ahead false body next)
  | last {only : Pattern .sequence} {cs : List Char} (honly : Spells cs only) :
      Spells cs (.last only)
  | orElse {first : Pattern .sequence} {others : Pattern .choice} {cs bs : List Char}
      (hfirst : Spells cs first) (hothers : Spells bs others) :
      Spells (cs ++ ['|'] ++ bs) (.orElse first others)

theorem CharSet.written_iff {set : CharSet} {s : List Char} : set.Written s ↔ s = set.text := by
  constructor
  · intro h
    cases h with
    | plain h => simp [text, escapeChar, h]
    | escaped h => simp [text, escapeChar, h]
    | word => rfl
    | any => rfl
    | asciiWord => rfl
    | asciiSeparator => rfl
  · rintro rfl
    cases set with
    | char c =>
      by_cases h : c ∈ metaChars
      · rw [show text (.char c) = ['\\', c] by simp [text, escapeChar, h]]
        exact .escaped h
      · rw [show text (.char c) = [c] by simp [text, escapeChar, h]]
        exact .plain h
    | word => exact .word
    | asciiWord => exact .asciiWord
    | asciiSeparator => exact .asciiSeparator
    | any => exact .any

namespace Pattern

/-- The text of a pattern is that of its tokens, and it has no other. -/
theorem spells_iff_tokens {kind : PatternKind} {p : Pattern kind} {cs : List Char} :
    Spells cs p ↔ cs = p.tokens.flatMap Token.text := by
  constructor
  · intro h
    induction h with
    | done => rfl
    | take hset hnext ih =>
      simp [tokens, Token.text, CharSet.written_iff.1 hset, ih]
    | anchor hnext ih => simp [tokens, Token.text, ih]
    | group hbody hnext ihb ih => simp [tokens, Token.text, Opening.text, ihb, ih]
    | upTo hbody hnext ihb ih =>
      simp [tokens, Token.text, Opening.text, Token.boundText, ihb, ih]
    | ahead hbody hnext ihb ih => simp [tokens, Token.text, Opening.text, ihb, ih]
    | notAhead hbody hnext ihb ih => simp [tokens, Token.text, Opening.text, ihb, ih]
    | last honly ih => simpa [tokens] using ih
    | orElse hfirst hothers ih₁ ih₂ => simp [tokens, Token.text, ih₁, ih₂]
  · rintro rfl
    induction p with
    | done => exact .done
    | take set times next ih =>
      have h : Spells (set.text ++ times.text ++ next.tokens.flatMap Token.text)
          (take set times next) := .take (CharSet.written_iff.2 rfl) ih
      simpa [tokens, Token.text] using h
    | anchor a next ih => simpa [tokens, Token.text] using Spells.anchor (a := a) ih
    | group body next ihb ih => simpa [tokens, Token.text, Opening.text] using Spells.group ihb ih
    | upTo bound body next ihb ih =>
      have h : Spells _ (upTo bound body next) := .upTo ihb ih
      simpa [tokens, Token.text, Opening.text, Token.boundText] using h
    | ahead holds body next ihb ih =>
      cases holds with
      | true => simpa [tokens, Token.text, Opening.text] using Spells.ahead ihb ih
      | false => simpa [tokens, Token.text, Opening.text] using Spells.notAhead ihb ih
    | last only ih => exact .last (by simpa [tokens] using ih)
    | orElse first others ih₁ ih₂ => simpa [tokens, Token.text] using Spells.orElse ih₁ ih₂

theorem spells_iff {p : Pattern .sequence} {cs : List Char} : Spells cs p ↔ cs = p.chars :=
  spells_iff_tokens

/-- **No text spells two patterns.** -/
theorem Spells.unique {p q : Pattern .sequence} {cs : List Char} (hp : Spells cs p)
    (hq : Spells cs q) : p = q :=
  chars_injective ((spells_iff.1 hp).symm.trans (spells_iff.1 hq))

end Pattern

/-! ## 2. Groups -/

namespace Token

/-- How many groups are open behind the tokens, `depth` of them from before; none of the tokens
closes a group that is not open. -/
def depthAfter : Nat → List Token → Option Nat
  | depth, [] => some depth
  | depth, opening _ :: ts => depthAfter (depth + 1) ts
  | 0, close _ :: _ => none
  | depth + 1, close _ :: ts => depthAfter depth ts
  | depth, _ :: ts => depthAfter depth ts

theorem depthAfter_tokens {kind : PatternKind} (p : Pattern kind) (depth : Nat) (ts : List Token) :
    depthAfter depth (p.tokens ++ ts) = depthAfter depth ts := by
  induction p generalizing depth ts with
  | done => rfl
  | take set times next ih => simp only [Pattern.tokens, List.cons_append, depthAfter, ih]
  | anchor a next ih => simp only [Pattern.tokens, List.cons_append, depthAfter, ih]
  | group body next ihb ih =>
    simp only [Pattern.tokens, List.cons_append, List.append_assoc, depthAfter, ihb, ih]
  | upTo bound body next ihb ih =>
    simp only [Pattern.tokens, List.cons_append, List.append_assoc, depthAfter, ihb, ih]
  | ahead holds body next ihb ih =>
    simp only [Pattern.tokens, List.cons_append, List.append_assoc, depthAfter, ihb, ih]
  | last only ih => simp only [Pattern.tokens, ih]
  | orElse first others ih₁ ih₂ =>
    simp only [Pattern.tokens, List.cons_append, List.append_assoc, depthAfter, ih₁, ih₂]

end Token

/-- Each group of the text is closed, and none is closed that was not opened. -/
def BalancedText (cs : List Char) : Prop :=
  ∃ ts, Token.scan? cs = some ts ∧ Token.depthAfter 0 ts = some 0

theorem Pattern.balancedText_chars (p : Pattern .sequence) : BalancedText p.chars := by
  refine ⟨p.tokens, Token.scan?_flatMap_text _, ?_⟩
  have h := Token.depthAfter_tokens p 0 []
  rwa [List.append_nil] at h

/-! ## 3. Literals -/

/-- Reading from the end: a single character goes in front of the run it stands before, and any
other token ends a run. -/
def Token.cutLiteral (t : Token) (cut : WordCut) : WordCut :=
  match t with
  | take (.char c) .once => ⟨c :: cut.opened, cut.closed⟩
  | _ => ⟨[], cut.all⟩

/-- The runs of single characters among the tokens, the first of them perhaps still open. -/
def literalCut (ts : List Token) : WordCut :=
  ts.foldr Token.cutLiteral ⟨[], []⟩

/-- The literals of the pattern, in the order in which they are written. -/
def Pattern.literals (p : Pattern .sequence) : List (List Char) :=
  (literalCut p.tokens).all

/-- The pattern has just these literals, if what comes behind does not begin with one. -/
def HasLiterals {kind : PatternKind} (p : Pattern kind) (words : List (List Char)) : Prop :=
  ∀ ts, (literalCut ts).opened = [] →
    (literalCut (p.tokens ++ ts)).all = words ++ (literalCut ts).all

/-- The token is not a single character, so it ends the literal in front of it. -/
def Token.EndsLiteral (t : Token) : Prop :=
  ∀ cut, t.cutLiteral cut = ⟨[], cut.all⟩

section

variable {t : Token}

theorem opened_literalCut_cons (ht : t.EndsLiteral) (ts : List Token) :
    (literalCut (t :: ts)).opened = [] := by
  show (t.cutLiteral (literalCut ts)).opened = []
  rw [ht]

theorem all_literalCut_cons (ht : t.EndsLiteral) (ts : List Token) :
    (literalCut (t :: ts)).all = (literalCut ts).all := by
  show (t.cutLiteral (literalCut ts)).all = (literalCut ts).all
  rw [ht]
  rfl

end

namespace HasLiterals

variable {p q : Pattern .sequence} {body : Pattern .choice} {words others : List (List Char)}

theorem eq_literals (h : HasLiterals p words) : p.literals = words := by
  have hp := h [] rfl
  rw [List.append_nil] at hp
  rw [Pattern.literals, hp]
  exact List.append_nil _

theorem done : HasLiterals .done [] :=
  fun _ _ => rfl

/-- A literal is one, if it has a character. -/
theorem literal {cs : List Char} (hne : cs ≠ []) : HasLiterals (Pattern.literal cs) [cs] := by
  intro ts hts
  have hcut : ∀ cs : List Char, literalCut ((Pattern.literal cs).tokens ++ ts)
      = ⟨cs ++ (literalCut ts).opened, (literalCut ts).closed⟩ := by
    intro cs
    induction cs with
    | nil => rfl
    | cons c cs ih =>
      have hcons : (Pattern.literal (c :: cs)).tokens ++ ts
          = .take (.char c) .once :: ((Pattern.literal cs).tokens ++ ts) := rfl
      rw [hcons, literalCut, List.foldr_cons, ← literalCut, ih]
      rfl
  rw [hcut, hts, List.append_nil]
  simp [WordCut.all, hne, hts]

theorem anchor (a : Anchor) (h : HasLiterals p words) : HasLiterals (.anchor a p) words := by
  intro ts hts
  rw [← h ts hts]
  exact all_literalCut_cons (t := .anchor a) (fun _ => rfl) _

theorem take {set : CharSet} {times : Times} (ht : (Token.take set times).EndsLiteral)
    (h : HasLiterals p words) : HasLiterals (.take set times p) words := by
  intro ts hts
  rw [← h ts hts]
  exact all_literalCut_cons ht _

/-- What stands in brackets and what comes behind them have their literals apart. -/
theorem bracket (o : Opening) (bound : Option Nat) (hbody : HasLiterals body words)
    (h : HasLiterals p others) {ts : List Token} (hts : (literalCut ts).opened = []) :
    (literalCut (.opening o :: body.tokens ++ .close bound :: p.tokens ++ ts)).all
      = words ++ others ++ (literalCut ts).all := by
  have hinside := hbody (.close bound :: (p.tokens ++ ts))
    (opened_literalCut_cons (t := .close bound) (fun _ => rfl) _)
  rw [all_literalCut_cons (t := .close bound) (fun _ => rfl), h ts hts] at hinside
  simp only [List.cons_append, List.append_assoc]
  rw [all_literalCut_cons (t := .opening o) (fun _ => rfl), hinside]

theorem group (hbody : HasLiterals body words) (h : HasLiterals p others) :
    HasLiterals (.group body p) (words ++ others) :=
  fun _ hts => bracket .group none hbody h hts

theorem upTo (bound : Nat) (hbody : HasLiterals body words) (h : HasLiterals p others) :
    HasLiterals (.upTo bound body p) (words ++ others) :=
  fun _ hts => bracket .group (some bound) hbody h hts

theorem ahead (holds : Bool) (hbody : HasLiterals body words) (h : HasLiterals p others) :
    HasLiterals (.ahead holds body p) (words ++ others) :=
  fun _ hts => bracket (.ahead holds) none hbody h hts

theorem last (h : HasLiterals p words) : HasLiterals (.last p) words :=
  h

theorem orElse (h : HasLiterals p words) (hbody : HasLiterals body others) :
    HasLiterals (.orElse p body) (words ++ others) := by
  intro ts hts
  have hfirst := h (.bar :: (body.tokens ++ ts))
    (opened_literalCut_cons (t := .bar) (fun _ => rfl) _)
  rw [all_literalCut_cons (t := .bar) (fun _ => rfl), hbody ts hts] at hfirst
  simp only [Pattern.tokens, List.append_assoc, List.cons_append]
  exact hfirst

/-- A pattern and then another have their literals apart if the other does not begin with one. -/
theorem append (h : HasLiterals p words) (hq : HasLiterals q others) {t : Token} {rest : List Token}
    (htokens : q.tokens = t :: rest) (ht : t.EndsLiteral) :
    HasLiterals (p ++ q) (words ++ others) := by
  intro ts hts
  have hstart : (literalCut (q.tokens ++ ts)).opened = [] := by
    rw [htokens]
    exact opened_literalCut_cons ht (rest ++ ts)
  rw [Pattern.tokens_append, List.append_assoc, h _ hstart, hq ts hts, List.append_assoc]

/-- A whole word holds the word, if it has a character. -/
theorem wholeWord {cs : List Char} (hne : cs ≠ []) : HasLiterals (Pattern.wholeWord cs) [cs] :=
  anchor .wordEdge (append (literal hne) (anchor .wordEdge done) rfl fun _ => rfl)

variable {α : Type} {f : α → Pattern .sequence} {g : α → List (List Char)}

theorem choiceOf {a : α} {as : List α} (h : ∀ b ∈ a :: as, HasLiterals (f b) (g b)) :
    HasLiterals (Pattern.choiceOf (f a) (as.map f)) ((a :: as).flatMap g) := by
  induction as generalizing a with
  | nil =>
    rw [List.flatMap_cons, List.flatMap_nil, List.append_nil]
    exact last (h a List.mem_cons_self)
  | cons b as ih =>
    rw [List.flatMap_cons]
    exact orElse (h a List.mem_cons_self) (ih fun c hc => h c (List.mem_cons_of_mem _ hc))

/-- Any one of some patterns has the literals of all of them. -/
theorem oneOf {as : List α} (h : ∀ a ∈ as, HasLiterals (f a) (g a)) :
    HasLiterals (Pattern.oneOf (as.map f)) (as.flatMap g) := by
  match as with
  | [] => exact done
  | [a] =>
    rw [List.flatMap_cons, List.flatMap_nil, List.append_nil]
    exact h a List.mem_cons_self
  | a :: b :: as =>
    have hgroup := group (choiceOf h) done
    rwa [List.append_nil] at hgroup

end HasLiterals

end VerseQuery
