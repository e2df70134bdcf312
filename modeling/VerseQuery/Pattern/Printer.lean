/-
# Pattern text

A tree is written as the row of its tokens, in the order in which they are met.
-/
import VerseQuery.Pattern.Token

namespace VerseQuery.Pattern

/-- The tokens of the tree. -/
def tokens : {kind : PatternKind} → Pattern kind → List Token
  | _, done => []
  | _, take set times next => .take set times :: next.tokens
  | _, anchor a next => .anchor a :: next.tokens
  | _, group body next => .opening .group :: body.tokens ++ .close none :: next.tokens
  | _, upTo bound body next => .opening .group :: body.tokens ++ .close (some bound) :: next.tokens
  | _, ahead holds body next =>
    .opening (.ahead holds) :: body.tokens ++ .close none :: next.tokens
  | _, last only => only.tokens
  | _, orElse first others => first.tokens ++ .bar :: others.tokens

/-- The tokens of two sequences stand one after the other. -/
theorem tokens_append (q : Pattern .sequence) : ∀ p : Pattern .sequence,
    (p ++ q).tokens = p.tokens ++ q.tokens
  | done => rfl
  | take _ _ next => congrArg (_ :: ·) (tokens_append q next)
  | anchor _ next => congrArg (_ :: ·) (tokens_append q next)
  | group _ next => by
    show _ ++ Token.close none :: (next ++ q).tokens = _
    rw [tokens_append q next]
    simp [tokens]
  | upTo bound _ next => by
    show _ ++ Token.close (some bound) :: (next ++ q).tokens = _
    rw [tokens_append q next]
    simp [tokens]
  | ahead _ _ next => by
    show _ ++ Token.close none :: (next ++ q).tokens = _
    rw [tokens_append q next]
    simp [tokens]

/-- A literal is written with its characters, each taken once. -/
theorem exists_of_mem_tokens_literal {cs : List Char} {t : Token} (h : t ∈ (literal cs).tokens) :
    ∃ c ∈ cs, t = .take (.char c) .once := by
  induction cs with
  | nil => exact absurd h List.not_mem_nil
  | cons c cs ih =>
    rcases List.mem_cons.1 h with rfl | h
    · exact ⟨c, List.mem_cons_self, rfl⟩
    · obtain ⟨d, hd, ht⟩ := ih h
      exact ⟨d, List.mem_cons_of_mem c hd, ht⟩

/-- A choice is written with its alternatives and the bars between them. -/
theorem mem_tokens_choiceOf {p : Pattern .sequence} {ps : List (Pattern .sequence)} {t : Token}
    (h : t ∈ (choiceOf p ps).tokens) : t = .bar ∨ ∃ q ∈ p :: ps, t ∈ q.tokens := by
  induction ps generalizing p with
  | nil => exact Or.inr ⟨p, List.mem_cons_self, h⟩
  | cons q ps ih =>
    rcases List.mem_append.1 h with h | h
    · exact Or.inr ⟨p, List.mem_cons_self, h⟩
    · rcases List.mem_cons.1 h with h | h
      · exact Or.inl h
      · refine (ih h).imp_right ?_
        rintro ⟨found, hfound, ht⟩
        exact ⟨found, List.mem_cons_of_mem p hfound, ht⟩

/-- Any one of some patterns is written with what they are, with bars and with a group. -/
theorem mem_tokens_oneOf {ps : List (Pattern .sequence)} {t : Token}
    (h : t ∈ (oneOf ps).tokens) :
    t ∈ [.opening .group, .bar, .close none] ∨ ∃ p ∈ ps, t ∈ p.tokens := by
  match ps with
  | [] => exact absurd h List.not_mem_nil
  | [p] => exact Or.inr ⟨p, List.mem_cons_self, h⟩
  | p :: q :: ps =>
    have hgroup : (oneOf (p :: q :: ps)).tokens
        = .opening .group :: (choiceOf p (q :: ps)).tokens ++ [.close none] := rfl
    rw [hgroup, List.mem_append, List.mem_cons, List.mem_singleton] at h
    rcases h with (rfl | h) | rfl
    · exact Or.inl (by simp)
    · rcases mem_tokens_choiceOf h with rfl | h
      · exact Or.inl (by simp)
      · exact Or.inr h
    · exact Or.inl (by simp)

/-- The characters that spell the tree. -/
def chars (p : Pattern .sequence) : List Char :=
  p.tokens.flatMap Token.text

theorem chars_append (p q : Pattern .sequence) : (p ++ q).chars = p.chars ++ q.chars := by
  simp [chars, tokens_append]

/-- The text that spells the tree. -/
def render (p : Pattern .sequence) : String :=
  String.ofList p.chars

end VerseQuery.Pattern
