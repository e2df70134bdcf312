/-
# What the pieces of a query match

Queries are put together from few pieces: literals, whole words and choices between patterns, one
after the other.  Each has one law here that says which stretches of a text it matches
(`Pattern.Matches`), and the bodies of queries are described with these laws only.
-/
import VerseQuery.Proofs.Matching

namespace VerseQuery

/-- The two texts agree character by character; under folding, but for case. -/
def SameText (mode : CaseMode) (a b : List Char) : Prop :=
  a.map mode.key = b.map mode.key

namespace SameText

variable {mode : CaseMode} {a b c d : List Char}

theorem rfl (a : List Char) : SameText mode a a := Eq.refl _

/-- If case counts, texts that agree are the same. -/
theorem exact_iff : SameText .exact a b ↔ a = b := by
  show a.map (fun c => c) = b.map (fun c => c) ↔ a = b
  rw [List.map_id', List.map_id']

theorem length_eq (h : SameText mode a b) : a.length = b.length := by
  simpa using congrArg List.length h

theorem nil_iff : SameText mode a [] ↔ a = [] := by
  simp [SameText]

theorem cons_iff {x : Char} : SameText mode a (x :: b) ↔
    ∃ y rest, a = y :: rest ∧ mode.key y = mode.key x ∧ SameText mode rest b := by
  cases a with
  | nil => simp [SameText]
  | cons y rest =>
    simp only [SameText, List.map_cons, List.cons.injEq]
    constructor
    · exact fun h => ⟨y, rest, ⟨Eq.refl _, Eq.refl _⟩, h⟩
    · rintro ⟨_, _, ⟨rfl, rfl⟩, h⟩
      exact h

theorem append_iff : SameText mode a (b ++ c) ↔
    ∃ a₁ a₂, a = a₁ ++ a₂ ∧ SameText mode a₁ b ∧ SameText mode a₂ c := by
  simp only [SameText, List.map_append, List.map_eq_append_iff]

end SameText

/-- The text has the words somewhere, with a word edge at both ends. -/
def OccursAsWord (mode : CaseMode) (word text : List Char) : Prop :=
  ∃ x m y, text = x ++ m ++ y ∧ SameText mode m word ∧ WordEdge x (m ++ y) ∧ WordEdge (x ++ m) y

namespace Reading

theorem andThen_assoc (P Q R : Reading) :
    (P.andThen Q).andThen R = P.andThen (Q.andThen R) := by
  funext x m y
  apply propext
  constructor
  · rintro ⟨ab, c, rfl, ⟨a, b, rfl, hP, hQ⟩, hR⟩
    exact ⟨a, b ++ c, by simp, by simpa using hP, b, c, rfl, hQ, by simpa using hR⟩
  · rintro ⟨a, bc, rfl, hP, b, c, rfl, hQ, hR⟩
    exact ⟨a ++ b, c, by simp, ⟨a, b, rfl, by simpa using hP, hQ⟩, by simpa using hR⟩

/-- Nothing in front changes nothing. -/
theorem nil_andThen (P : Reading) : andThen (fun _ m _ => m = []) P = P := by
  funext x m y
  apply propext
  constructor
  · rintro ⟨a, b, rfl, rfl, hP⟩
    simpa using hP
  · exact fun hP => ⟨[], m, rfl, rfl, by simpa using hP⟩

/-- Nothing behind changes nothing. -/
theorem andThen_nil (P : Reading) : P.andThen (fun _ m _ => m = []) = P := by
  funext x m y
  apply propext
  constructor
  · rintro ⟨a, b, rfl, hP, rfl⟩
    simpa using hP
  · exact fun hP => ⟨m, [], by simp, by simpa using hP, rfl⟩

theorem or_andThen (P Q R : Reading) : andThen (fun x m y => P x m y ∨ Q x m y) R
    = fun x m y => P.andThen R x m y ∨ Q.andThen R x m y := by
  funext x m y
  apply propext
  constructor
  · rintro ⟨a, b, rfl, hP | hQ, hR⟩
    · exact Or.inl ⟨a, b, rfl, hP, hR⟩
    · exact Or.inr ⟨a, b, rfl, hQ, hR⟩
  · rintro (⟨a, b, rfl, hP, hR⟩ | ⟨a, b, rfl, hQ, hR⟩)
    · exact ⟨a, b, rfl, Or.inl hP, hR⟩
    · exact ⟨a, b, rfl, Or.inr hQ, hR⟩

/-- A condition on the place in front of a stretch can be put in front of a row of stretches. -/
theorem guard_andThen (G : List Char → List Char → Prop) (P Q : Reading) :
    andThen (fun x m y => G x (m ++ y) ∧ P x m y) Q
      = fun x m y => G x (m ++ y) ∧ P.andThen Q x m y := by
  funext x m y
  apply propext
  constructor
  · rintro ⟨a, b, rfl, ⟨hG, hP⟩, hQ⟩
    exact ⟨by simpa using hG, a, b, rfl, hP, hQ⟩
  · rintro ⟨hG, a, b, rfl, hP, hQ⟩
    exact ⟨a, b, rfl, ⟨by simpa using hG, hP⟩, hQ⟩

end Reading

namespace Pattern

variable {mode : CaseMode}

/-- A pattern and then another match a stretch of the first and then one of the second. -/
theorem matches_append {kind : PatternKind} (p : Pattern kind) (q : Pattern .sequence) :
    (p.append q).Matches mode = (p.Matches mode).andThen (q.Matches mode) := by
  induction p with
  | done => simp only [append, Matches, Reading.nil_andThen]
  | take set times next ih => simp only [append, Matches, ih, Reading.andThen_assoc]
  | anchor a next ih => simp only [append, Matches, ih, Reading.guard_andThen a.Holds]
  | group body next _ ih => simp only [append, Matches, ih, Reading.andThen_assoc]
  | upTo bound body next _ ih => simp only [append, Matches, ih, Reading.andThen_assoc]
  | ahead holds body next _ ih =>
    simp only [append, Matches, ih]
    exact (Reading.guard_andThen
      (fun x rest => (∃ a b, rest = a ++ b ∧ body.Matches mode x a b) ↔ holds = true) _ _).symm
  | last only ih => simp only [append, Matches, ih]
  | orElse first others h₁ h₂ => simp only [append, Matches, h₁, h₂, Reading.or_andThen]

/-- A literal matches what reads like it. -/
theorem matches_literal {cs x m y : List Char} :
    (literal cs).Matches mode x m y ↔ SameText mode m cs := by
  induction cs generalizing x m with
  | nil => simp only [literal, List.foldr_nil, Matches, SameText.nil_iff]
  | cons c cs ih =>
    rw [SameText.cons_iff]
    constructor
    · rintro ⟨a, b, rfl, ⟨d, rfl, hd⟩, hb⟩
      exact ⟨d, b, rfl, by simpa [CharSet.has] using hd, ih.1 hb⟩
    · rintro ⟨d, b, rfl, hd, hb⟩
      exact ⟨[d], b, rfl, ⟨d, rfl, by simpa [CharSet.has] using hd⟩, ih.2 hb⟩

/-- A whole word matches what reads like it and has a word edge at both ends. -/
theorem matches_wholeWord {cs x m y : List Char} : (wholeWord cs).Matches mode x m y ↔
    SameText mode m cs ∧ WordEdge x (m ++ y) ∧ WordEdge (x ++ m) y := by
  have h : (wholeWord cs).Matches mode x m y ↔
      WordEdge x (m ++ y) ∧ ((literal cs).append (anchor .wordEdge done)).Matches mode x m y :=
    Iff.rfl
  rw [h, matches_append]
  constructor
  · rintro ⟨hx, a, b, rfl, ha, hy, rfl⟩
    rw [List.append_nil] at hx ⊢
    exact ⟨matches_literal.1 ha, hx, hy⟩
  · rintro ⟨hm, hx, hy⟩
    exact ⟨hx, m, [], (List.append_nil m).symm, matches_literal.2 hm, hy, rfl⟩

theorem matches_choiceOf {x m y : List Char} (p : Pattern .sequence)
    (ps : List (Pattern .sequence)) :
    (choiceOf p ps).Matches mode x m y ↔ ∃ q ∈ p :: ps, q.Matches mode x m y := by
  induction ps generalizing p with
  | nil => simp only [choiceOf, Matches, List.mem_singleton, exists_eq_left]
  | cons q qs ih =>
    have h : (choiceOf p (q :: qs)).Matches mode x m y ↔
        p.Matches mode x m y ∨ (choiceOf q qs).Matches mode x m y := Iff.rfl
    simp only [h, ih q, List.mem_cons, exists_eq_or_imp]

/-- Any one of some patterns matches what one of them does. -/
theorem matches_oneOf {ps : List (Pattern .sequence)} (h : ps ≠ []) {x m y : List Char} :
    (oneOf ps).Matches mode x m y ↔ ∃ p ∈ ps, p.Matches mode x m y := by
  match ps with
  | [p] => simp only [oneOf, List.mem_singleton, exists_eq_left]
  | p :: q :: ps =>
    rw [← matches_choiceOf]
    show ((choiceOf p (q :: ps)).Matches mode).andThen (fun _ m _ => m = []) x m y ↔ _
    rw [Reading.andThen_nil]

/-- A whole word is found in the texts that have it. -/
theorem matchesText_wholeWord {cs text : List Char} :
    (wholeWord cs).matchesText mode text = true ↔ OccursAsWord mode cs text := by
  simp only [matchesText_iff, matches_wholeWord, OccursAsWord]

end Pattern

end VerseQuery
