/-
# Signs in the text of a query

The risk of a query is estimated from its text: by how many assertions are written in it, and by
whether it repeats the set of any.  Both are looked for as signs, as so many characters in a row,
wherever they stand.  A sign could come about by accident then, made of what a user wrote, or of the
end of one piece of the text and the beginning of the next.

It does not.  Each of the signs is the text of one token.  No other token has it in its text, and
none begins in one token and ends in another.  So signs are counted by counting tokens
(`Token.occurrences_flatMap_text`), and a query has one token of assertion for each of its terms and
none for anything else (`Request.occurrences_source`).
-/
import VerseQuery.Proofs.SourceText

namespace VerseQuery

open Text

/-! ## 1. Occurrences -/

section Occurrences

variable {part a b : List Char}

/-- A part that occurs somewhere is a stretch of the text. -/
theorem occurrences_pos_iff : 0 < occurrences part a ↔ part <:+: a := by
  induction a with
  | nil =>
    rw [occurrences, List.infix_nil]
    split
    · rename_i h
      exact iff_of_true Nat.one_pos (List.isEmpty_iff.1 h)
    · rename_i h
      exact iff_of_false (Nat.lt_irrefl 0) fun hnil => h (List.isEmpty_iff.2 hnil)
  | cons c a ih =>
    rw [occurrences, List.infix_cons_iff, ← ih, ← List.isPrefixOf_iff_prefix]
    split
    · rename_i h
      exact iff_of_true (by omega) (Or.inl h)
    · rename_i h
      rw [Nat.zero_add, or_iff_right h]

theorem occurrences_nil (hne : part ≠ []) : occurrences part [] = 0 := by
  rw [occurrences, if_neg (by simpa using hne)]

/-- The part does not begin in the one text and end in the other. -/
def NoneAcross (part a b : List Char) : Prop :=
  ∀ u v, part = u ++ v → u ≠ [] → v ≠ [] → u <:+ a → ¬v <+: b

/-- **Where none is cut in two**, the occurrences in a text are those in its two halves. -/
theorem occurrences_append (hne : part ≠ []) (h : NoneAcross part a b) :
    occurrences part (a ++ b) = occurrences part a + occurrences part b := by
  induction a with
  | nil => rw [List.nil_append, occurrences_nil hne, Nat.zero_add]
  | cons c a ih =>
    have hbehind : NoneAcross part a b := fun u v hpart hu hv hsuffix =>
      h u v hpart hu hv (hsuffix.trans (List.suffix_cons c a))
    -- an occurrence that begins at `c` and reaches into `b` would be cut in two
    have hhere : part.isPrefixOf (c :: (a ++ b)) = part.isPrefixOf (c :: a) := by
      rw [Bool.eq_iff_iff, List.isPrefixOf_iff_prefix, List.isPrefixOf_iff_prefix]
      constructor
      · rintro ⟨rest, hrest⟩
        rcases List.append_eq_append_iff.1 (show part ++ rest = (c :: a) ++ b from hrest) with
          ⟨u, hin, -⟩ | ⟨v, hcut, hb⟩
        · exact ⟨u, hin.symm⟩
        · by_cases hnil : v = []
          · exact ⟨[], by rw [List.append_nil, hcut, hnil, List.append_nil]⟩
          · exact absurd ⟨rest, hb.symm⟩
              (h (c :: a) v hcut (List.cons_ne_nil c a) hnil List.suffix_rfl)
      · exact fun hprefix => hprefix.trans (List.prefix_append (c :: a) b)
    rw [List.cons_append, occurrences, occurrences, hhere, ih hbehind, Nat.add_assoc]

/-- What begins with a character that the text does not have does not occur in it. -/
theorem occurrences_eq_zero {c : Char} (h : c ∉ a) : occurrences (c :: part) a = 0 := by
  rw [← Nat.le_zero, ← Nat.not_lt, occurrences_pos_iff]
  exact fun hin => h (hin.subset List.mem_cons_self)

end Occurrences

/-! ## 2. Signs are tokens -/

namespace Token

/-- The tokens whose texts are looked for: the two assertions, and any characters repeated. -/
def signs : List Token :=
  [opening (.ahead true), opening (.ahead false), take .any .star, take .any .plus]

/-- A character with a meaning of its own is taken just once. -/
def IsSteady : Token → Prop
  | take (.char c) times => times = .once ∨ c ∉ metaChars
  | _ => True

variable {s t : Token} {rest : List Char}

theorem text_char_once {c : Char} (h : c ∈ metaChars) :
    text (take (.char c) .once) = ['\\', c] := by
  simp [text, CharSet.text, Times.text, escapeChar, h]

theorem text_char {c : Char} (h : c ∉ metaChars) (times : Times) :
    text (take (.char c) times) = c :: times.text := by
  simp [text, CharSet.text, escapeChar, h]

/-- No steady token ends like the beginning of an assertion. -/
theorem not_suffix_text (ht : t.IsSteady) : ¬['(', '?'] <:+ t.text := by
  rw [← List.reverse_prefix]
  cases t with
  | take set times =>
    cases set with
    | char c =>
      by_cases hmeta : c ∈ metaChars
      · obtain rfl : times = .once := ht.resolve_right (not_not_intro hmeta)
        rw [text_char_once hmeta]
        simp
      · have hc : c ≠ '(' := by
          rintro rfl
          exact hmeta (by decide)
        rw [text_char hmeta]
        cases times <;> simp [Times.text, hc.symm]
    | _ => cases times <;> decide
  | anchor a => cases a <;> decide
  | opening o =>
    cases o with
    | group => decide
    | ahead holds => cases holds <;> decide
  | bar => decide
  | close bound =>
    cases bound with
    | none => decide
    | some n => simp [text, boundText]

theorem signs_cases (hs : s ∈ signs) : s.text = ['(', '?', '='] ∨ s.text = ['(', '?', '!'] ∨
    s.text = ['.', '*'] ∨ s.text = ['.', '+'] := by
  revert s
  decide

/-- Cut in two, a sign goes on with a character that no free text begins with, or else its first
part is what each assertion begins with. -/
theorem signs_cut (hs : s ∈ signs) {u v : List Char} (h : s.text = u ++ v) (hu : u ≠ [])
    (hv : v ≠ []) : (∃ c ∈ v.head?, c ∈ ['?', '*', '+', '{']) ∨ u = ['(', '?'] := by
  have hpair : ∀ {x y : Char}, [x, y] = u ++ v → v = [y] := by
    intro x y hcut
    obtain ⟨hnil, -⟩ | ⟨a, -, htail⟩ := List.cons_eq_append_iff.1 hcut
    · exact absurd hnil hu
    · obtain ⟨-, hall⟩ | ⟨-, hnil⟩ := List.singleton_eq_append_iff.1 htail
      · exact hall
      · exact absurd hnil hv
  have hbracket : ∀ {z : Char}, ['(', '?', z] = u ++ v → v = ['?', z] ∨ u = ['(', '?'] := by
    intro z hcut
    obtain ⟨hnil, -⟩ | ⟨a, rfl, htail⟩ := List.cons_eq_append_iff.1 hcut
    · exact absurd hnil hu
    · obtain ⟨-, hall⟩ | ⟨b, rfl, hlast⟩ := List.cons_eq_append_iff.1 htail
      · exact Or.inl hall
      · obtain ⟨rfl, -⟩ | ⟨-, hnil⟩ := List.singleton_eq_append_iff.1 hlast
        · exact Or.inr rfl
        · exact absurd hnil hv
  rcases signs_cases hs with hs | hs | hs | hs
  · exact (hbracket (hs.symm.trans h)).imp_left fun hv => ⟨'?', by rw [hv]; rfl, by decide⟩
  · exact (hbracket (hs.symm.trans h)).imp_left fun hv => ⟨'?', by rw [hv]; rfl, by decide⟩
  · exact Or.inl ⟨'*', by rw [hpair (hs.symm.trans h)]; rfl, by decide⟩
  · exact Or.inl ⟨'+', by rw [hpair (hs.symm.trans h)]; rfl, by decide⟩

/-- No sign begins in a steady token and ends behind it. -/
theorem noneAcross_text (hs : s ∈ signs) (ht : t.IsSteady) (hrest : IsFree rest) :
    NoneAcross s.text t.text rest := by
  intro u v hcut hu hv hsuffix hprefix
  rcases signs_cut hs hcut hu hv with ⟨c, hc, hmem⟩ | rfl
  · have hhead : c ∈ rest.head? := by
      obtain ⟨after, rfl⟩ := hprefix
      rwa [List.head?_append_of_ne_nil _ hv]
    obtain ⟨h₁, h₂, h₃, h₄⟩ := hrest c hhead
    simp_all
  · exact not_suffix_text ht hsuffix

/-- What has neither of the two characters that signs begin with has no sign. -/
theorem occurrences_text_eq_zero (hs : s ∈ signs) {cs : List Char} (hbracket : '(' ∉ cs)
    (hdot : '.' ∉ cs) : occurrences s.text cs = 0 := by
  rcases signs_cases hs with hs | hs | hs | hs
  · rw [hs, occurrences_eq_zero hbracket]
  · rw [hs, occurrences_eq_zero hbracket]
  · rw [hs, occurrences_eq_zero hdot]
  · rw [hs, occurrences_eq_zero hdot]

/-- Each sign is in the text of its own token once, and not in that of another. -/
theorem occurrences_text (hs : s ∈ signs) (ht : t.IsSteady) :
    occurrences s.text t.text = if t = s then 1 else 0 := by
  -- a token that is written in one way only is looked through
  have hclosed : ∀ {t : Token}, (∀ s ∈ signs, occurrences s.text t.text = if t = s then 1 else 0) →
      occurrences s.text t.text = if t = s then 1 else 0 := fun h => h s hs
  cases t with
  | take set times =>
    cases set with
    | char c =>
      have hnone : ∀ s ∈ signs, take (.char c) times ≠ s := by
        simp [signs]
      rw [if_neg (hnone s hs)]
      by_cases hmeta : c ∈ metaChars
      · obtain rfl : times = .once := ht.resolve_right (not_not_intro hmeta)
        rw [text_char_once hmeta]
        rcases signs_cases hs with hs | hs | hs | hs <;> simp [hs, occurrences]
      · have hc : '(' ≠ c ∧ '.' ≠ c := by
          constructor <;> rintro rfl <;> exact hmeta (by decide)
        rw [text_char hmeta]
        refine occurrences_text_eq_zero hs ?_ ?_
        · cases times <;> simp [Times.text, hc.1]
        · cases times <;> simp [Times.text, hc.2]
    | _ => cases times <;> exact hclosed (by decide)
  | anchor a => cases a <;> exact hclosed (by decide)
  | opening o =>
    cases o with
    | group => exact hclosed (by decide)
    | ahead holds => cases holds <;> exact hclosed (by decide)
  | bar => exact hclosed (by decide)
  | close bound =>
    cases bound with
    | none => exact hclosed (by decide)
    | some n =>
      have hnone : ∀ s ∈ signs, close (some n) ≠ s := by
        simp [signs]
      have hdigit : ∀ c : Char, c.isDigit = false → c ∉ Nat.toDigits 10 n := by
        intro c hc hmem
        rw [Nat.isDigit_of_mem_toDigits (by decide) (by decide) hmem] at hc
        exact absurd hc (by decide)
      rw [if_neg (hnone s hs)]
      refine occurrences_text_eq_zero hs ?_ ?_
      · simp [text, boundText, hdigit '(' (by decide)]
      · simp [text, boundText, hdigit '.' (by decide)]

/-- **Signs are counted by counting tokens.** -/
theorem occurrences_flatMap_text (hs : s ∈ signs) {ts : List Token} (hts : ∀ t ∈ ts, t.IsSteady) :
    occurrences s.text (ts.flatMap text) = ts.count s := by
  induction ts with
  | nil => exact occurrences_nil (text_ne_nil s)
  | cons t ts ih =>
    obtain ⟨ht, hts⟩ := List.forall_mem_cons.1 hts
    rw [List.flatMap_cons, occurrences_append (text_ne_nil s)
      (noneAcross_text hs ht (isFree_flatMap_text ts)), ih hts, occurrences_text hs ht,
      List.count_cons, Nat.add_comm]
    simp only [beq_iff_eq]

/-! ## 3. The tokens of a query -/

/-- The tokens that what is searched for is written with: characters that stand for themselves, and
the few signs that modes, choices and pairs of words need. -/
inductive InBody : Token → Prop where
  | char (c : Char) : InBody (take (.char c) .once)
  | plural : InBody (take (.char 's') .optional)
  | word : InBody (take .word .star)
  | gapWord : InBody (take .asciiWord .plus)
  | gapSeparator : InBody (take .asciiSeparator .plus)
  | anchor (a : Anchor) : InBody (anchor a)
  | group : InBody (opening .group)
  | bar : InBody bar
  | close (bound : Option Nat) : InBody (close bound)

theorem InBody.isSteady (h : t.InBody) : t.IsSteady := by
  cases h with
  | char c => exact Or.inl rfl
  | plural => exact Or.inr (by decide)
  | _ => trivial

theorem InBody.not_mem_signs (h : t.InBody) : t ∉ signs := by
  cases h <;> simp [signs]

end Token

namespace Pattern

/-- All the tokens of the pattern are such as what is searched for is written with. -/
def IsPlain {kind : PatternKind} (p : Pattern kind) : Prop :=
  ∀ t ∈ p.tokens, t.InBody

namespace IsPlain

variable {p q : Pattern .sequence} {body : Pattern .choice}

theorem count_eq_zero (h : p.IsPlain) {s : Token} (hs : s ∈ Token.signs) : p.tokens.count s = 0 :=
  List.count_eq_zero.2 fun hmem => (h s hmem).not_mem_signs hs

theorem done : Pattern.done.IsPlain :=
  fun _ ht => absurd ht List.not_mem_nil

theorem take {set : CharSet} {times : Times} (ht : (Token.take set times).InBody)
    (h : p.IsPlain) : (Pattern.take set times p).IsPlain :=
  List.forall_mem_cons.2 ⟨ht, h⟩

theorem anchor (a : Anchor) (h : p.IsPlain) : (Pattern.anchor a p).IsPlain :=
  List.forall_mem_cons.2 ⟨.anchor a, h⟩

theorem upTo (bound : Nat) (hbody : body.IsPlain) (h : p.IsPlain) :
    (Pattern.upTo bound body p).IsPlain :=
  List.forall_mem_append.2
    ⟨List.forall_mem_cons.2 ⟨.group, hbody⟩, List.forall_mem_cons.2 ⟨.close (some bound), h⟩⟩

theorem append (hp : p.IsPlain) (hq : q.IsPlain) : (p ++ q).IsPlain := by
  rw [IsPlain, tokens_append]
  exact List.forall_mem_append.2 ⟨hp, hq⟩

theorem literal (cs : List Char) : (Pattern.literal cs).IsPlain := by
  intro t ht
  obtain ⟨c, -, rfl⟩ := exists_of_mem_tokens_literal ht
  exact .char c

theorem wholeWord (cs : List Char) : (Pattern.wholeWord cs).IsPlain :=
  anchor .wordEdge (append (literal cs) (anchor .wordEdge done))

theorem oneOf {ps : List (Pattern .sequence)} (h : ∀ p ∈ ps, p.IsPlain) :
    (Pattern.oneOf ps).IsPlain := by
  have hgroup : ∀ t ∈ [Token.opening .group, .bar, .close none], t.InBody := by
    simp [Token.InBody.group, Token.InBody.bar, Token.InBody.close]
  intro t ht
  rcases mem_tokens_oneOf ht with ht | ⟨p, hp, ht⟩
  · exact hgroup t ht
  · exact h p hp t ht

theorem alternatives (plurals : Bool) (texts : List String) :
    (VerseQuery.alternatives plurals texts).IsPlain := by
  have hany : (Pattern.oneOf (texts.map fun text => Pattern.literal text.toList)).IsPlain := by
    refine oneOf fun p hp => ?_
    obtain ⟨text, -, rfl⟩ := List.mem_map.1 hp
    exact literal text.toList
  cases plurals with
  | false => exact hany
  | true => exact append hany (take .plural done)

theorem place (h : p.IsPlain) (mode : MatchMode) : (mode.place p).IsPlain := by
  cases mode with
  | contains => exact h
  | startsWith => exact anchor .textStart h
  | endsWith => exact append h (anchor .textEnd done)
  | wholeWord => exact anchor .wordEdge (append h (anchor .wordEdge done))
  | wordStartsWith => exact anchor .wordEdge (append h (take .word done))
  | wordEndsWith => exact take .word (append h (anchor .wordEdge done))

theorem rule (rule : ProximityRule) : rule.pattern.IsPlain := by
  have hgap : (Pattern.last ProximityRule.gapWord).IsPlain :=
    take .gapWord (take .gapSeparator done)
  exact append (wholeWord _) (take .gapSeparator (upTo _ hgap (wholeWord _)))

end IsPlain

end Pattern

namespace Request

variable {r : Request} {synonyms : List String}

/-- **What is searched for has no sign in it.** -/
theorem isPlain_body : (r.body synonyms).IsPlain := by
  rw [body]
  split
  · exact .place (.alternatives r.plurals _) r.mode
  · refine .oneOf fun p hp => ?_
    obtain ⟨rule, -, rfl⟩ := List.mem_map.1 hp
    exact .rule rule

/-- Each assertion brings its own sign, a run of any characters, and no other sign. -/
theorem count_assertions {t : Token} (ht : t ∈ Token.signs) (holds : Bool) (words : List String)
    (p : Pattern .sequence) : (words.foldr (assertion holds) p).tokens.count t =
      words.length * [Token.opening (.ahead holds), .take .any .star].count t
        + p.tokens.count t := by
  induction words with
  | nil => rw [List.foldr_nil, List.length_nil, Nat.zero_mul, Nat.zero_add]
  | cons word words ih =>
    have htokens : ∀ q : Pattern .sequence, (assertion holds word q).tokens =
        [.opening (.ahead holds), .take .any .star] ++
          ((Pattern.wholeWord word.toList).tokens ++ ([.close none] ++ q.tokens)) := fun _ => rfl
    have hclose : [Token.close none].count t = 0 :=
      List.count_eq_zero.2 fun hmem => absurd (List.mem_singleton.1 hmem ▸ ht) (by decide)
    rw [List.foldr_cons, htokens, List.count_append, List.count_append, List.count_append, hclose,
      (Pattern.IsPlain.wholeWord word.toList).count_eq_zero ht, ih, List.length_cons,
      Nat.add_one_mul]
    omega

theorem isSteady_assertions (holds : Bool) (words : List String) {p : Pattern .sequence}
    (hp : ∀ t ∈ p.tokens, t.IsSteady) :
    ∀ t ∈ (words.foldr (assertion holds) p).tokens, t.IsSteady := by
  induction words with
  | nil => exact hp
  | cons word words ih =>
    have hword : ∀ t ∈ (Pattern.wholeWord word.toList).tokens, t.IsSteady :=
      fun t ht => (Pattern.IsPlain.wholeWord word.toList t ht).isSteady
    refine List.forall_mem_cons.2 ⟨trivial, List.forall_mem_cons.2 ⟨trivial, ?_⟩⟩
    exact List.forall_mem_append.2 ⟨hword, List.forall_mem_cons.2 ⟨trivial, ih⟩⟩

/-- **The signs in the text of a query** are those of its assertions. -/
theorem occurrences_source {t : Token} (ht : t ∈ Token.signs) :
    occurrences t.text (r.pattern synonyms).source.toList =
      (keptTerms r.required).length *
          [Token.opening (.ahead true), .take .any .star].count t +
        (keptTerms r.excluded).length *
          [Token.opening (.ahead false), .take .any .star].count t := by
  have hsteady : ∀ t ∈ (r.syntaxTree synonyms).tokens, t.IsSteady :=
    isSteady_assertions true _
      (isSteady_assertions false _ fun t ht => (isPlain_body t ht).isSteady)
  rw [QueryPattern.source, Pattern.render, String.toList_ofList, tree_pattern, Pattern.chars,
    Token.occurrences_flatMap_text ht hsteady, syntaxTree, count_assertions ht, count_assertions ht,
    isPlain_body.count_eq_zero ht, Nat.add_zero]

end Request

end VerseQuery
