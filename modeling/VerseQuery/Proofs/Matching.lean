/-
# What a pattern matches

`Pattern.ends` searches: from a place in a text it lists the places where a match can end.  Here
the same is said without a search.  A stretch `m` of a text `x ++ m ++ y` is a match of a pattern
when `Pattern.Matches` holds of the three parts, and that is read off the pattern one element at a
time.

* `mem_ends_iff`: the search finds exactly the matches.
* `matchesText_iff`: a text is a result when one of its stretches is a match.
* `exists_of_mem_spans`: every span that is found is a match, with at least one character in it.
* `exists_prefers_of_mem_spans`: and it is the match that the pattern prefers where it begins.

All that is proved of queries is proved of `Matches`, so the search is opened in this file only.
-/
import VerseQuery.Pattern.Matcher

namespace VerseQuery

open Text

/-! ## 1. Places between two parts of a text -/

/-- The place behind `x` and in front of `y`. -/
def Cursor.between (x y : List Char) : Cursor := ⟨x.reverse, y⟩

theorem Cursor.mem_placesFrom {x rest : List Char} {cur : Cursor} :
    cur ∈ placesFrom x.reverse rest ↔ ∃ m y, rest = m ++ y ∧ cur = between (x ++ m) y := by
  induction rest generalizing x with
  | nil =>
    simp only [placesFrom, List.mem_singleton, List.nil_eq_append_iff]
    constructor
    · rintro rfl
      exact ⟨[], [], ⟨rfl, rfl⟩, by simp [between]⟩
    · rintro ⟨m, y, ⟨rfl, rfl⟩, rfl⟩
      simp [between]
  | cons c rest ih =>
    have hx : c :: x.reverse = (x ++ [c]).reverse := by simp
    rw [placesFrom, List.mem_cons, hx, ih]
    constructor
    · rintro (rfl | ⟨m, y, rfl, rfl⟩)
      · exact ⟨[], c :: rest, rfl, by simp [between]⟩
      · exact ⟨c :: m, y, rfl, by simp⟩
    · rintro ⟨m, y, h, rfl⟩
      cases m with
      | nil =>
        obtain rfl : c :: rest = y := h
        exact Or.inl (by simp [between])
      | cons d m =>
        obtain ⟨rfl, rfl⟩ := List.cons.inj h
        exact Or.inr ⟨m, y, rfl, by simp⟩

/-- The places in a text are those between a beginning of it and the rest. -/
theorem Cursor.mem_places {text : List Char} {cur : Cursor} :
    cur ∈ places text ↔ ∃ x y, text = x ++ y ∧ cur = between x y := by
  exact mem_placesFrom (x := [])

/-- The last character is a word character. -/
def EndsInWord (x : List Char) : Prop :=
  ∃ c ∈ x.getLast?, isWordChar c = true

/-- The first character is a word character. -/
def StartsInWord (y : List Char) : Prop :=
  ∃ c ∈ y.head?, isWordChar c = true

/-- Between the two parts there is a word edge: a word character stands on one side only. -/
def WordEdge (x y : List Char) : Prop :=
  ¬(EndsInWord x ↔ StartsInWord y)

/-- The condition holds between the two parts. -/
def Anchor.Holds : Anchor → List Char → List Char → Prop
  | textStart, x, _ => x = []
  | textEnd, _, y => y = []
  | wordEdge, x, y => WordEdge x y

theorem meetsWord_iff (y : List Char) : Cursor.meetsWord y = true ↔ StartsInWord y := by
  cases y <;> simp [Cursor.meetsWord, StartsInWord]

theorem meetsWord_reverse_iff (x : List Char) :
    Cursor.meetsWord x.reverse = true ↔ EndsInWord x := by
  rw [meetsWord_iff, StartsInWord, EndsInWord, List.head?_reverse]

theorem Anchor.holds_iff (a : Anchor) (x y : List Char) :
    a.holds (.between x y) = true ↔ a.Holds x y := by
  cases a with
  | textStart => simp [holds, Holds, Cursor.between]
  | textEnd => simp [holds, Holds, Cursor.between]
  | wordEdge =>
    rw [Holds, WordEdge, ← meetsWord_iff, ← meetsWord_reverse_iff, ← Bool.eq_iff_iff]
    exact bne_iff_ne

/-! ## 2. The relation -/

/-- A condition on a stretch of a text: on what comes before it, on itself, and on what comes
after it. -/
abbrev Reading := List Char → List Char → List Char → Prop

namespace Reading

/-- The stretch is one of the first kind and then one of the second. -/
def andThen (P Q : Reading) : Reading :=
  fun x m y => ∃ a b, m = a ++ b ∧ P x a (b ++ y) ∧ Q (x ++ a) b y

/-- The stretch is at most `bound` of the kind, one after the other. -/
def upTo (P : Reading) : Nat → Reading
  | 0 => fun _ m _ => m = []
  | bound + 1 => fun x m y => P.andThen (upTo P bound) x m y ∨ m = []

end Reading

/-- The characters are of the set, and as many as are to be taken. -/
def CharSet.Takes (mode : CaseMode) (set : CharSet) (m : List Char) : Times → Prop
  | .once => ∃ c, m = [c] ∧ set.has mode c = true
  | .optional => (∃ c, m = [c] ∧ set.has mode c = true) ∨ m = []
  | .star => ∀ c ∈ m, set.has mode c = true
  | .plus => m ≠ [] ∧ ∀ c ∈ m, set.has mode c = true

/-- The pattern matches the stretch of the text. -/
def Pattern.Matches (mode : CaseMode) : {kind : PatternKind} → Pattern kind → Reading
  | _, done => fun _ m _ => m = []
  | _, take set times next =>
    Reading.andThen (fun _ m _ => set.Takes mode m times) (next.Matches mode)
  | _, anchor a next => fun x m y => a.Holds x (m ++ y) ∧ next.Matches mode x m y
  | _, group body next => (body.Matches mode).andThen (next.Matches mode)
  | _, upTo bound body next => ((body.Matches mode).upTo bound).andThen (next.Matches mode)
  | _, ahead holds body next => fun x m y =>
    ((∃ a b, m ++ y = a ++ b ∧ body.Matches mode x a b) ↔ holds = true) ∧ next.Matches mode x m y
  | _, last only => only.Matches mode
  | _, orElse first others => fun x m y => first.Matches mode x m y ∨ others.Matches mode x m y

/-! ## 3. The search finds the matches -/

/-- The search step leads to the places behind the stretches of the kind, and to no others. -/
def Finds (step : Cursor → List Cursor) (P : Reading) : Prop :=
  ∀ (x rest : List Char) (stop : Cursor), stop ∈ step (.between x rest) ↔
    ∃ m y, rest = m ++ y ∧ stop = .between (x ++ m) y ∧ P x m y

namespace Finds

variable {S T : Cursor → List Cursor} {P Q : Reading}

theorem here : Finds (fun cur => [cur]) fun _ m _ => m = [] := by
  intro x rest stop
  rw [List.mem_singleton]
  constructor
  · rintro rfl
    exact ⟨[], rest, rfl, by simp, rfl⟩
  · rintro ⟨m, y, rfl, rfl, rfl⟩
    simp

theorem flatMap (hS : Finds S P) (hT : Finds T Q) :
    Finds (fun cur => (S cur).flatMap T) (P.andThen Q) := by
  intro x rest stop
  rw [List.mem_flatMap]
  constructor
  · rintro ⟨mid, hmid, hstop⟩
    obtain ⟨a, y, rfl, rfl, hP⟩ := (hS _ _ _).1 hmid
    obtain ⟨b, z, rfl, rfl, hQ⟩ := (hT _ _ _).1 hstop
    exact ⟨a ++ b, z, by simp, by simp, a, b, rfl, hP, hQ⟩
  · rintro ⟨m, y, rfl, rfl, a, b, rfl, hP, hQ⟩
    refine ⟨.between (x ++ a) (b ++ y), ?_, ?_⟩
    · exact (hS _ _ _).2 ⟨a, b ++ y, by simp, rfl, hP⟩
    · exact (hT _ _ _).2 ⟨b, y, rfl, by simp, hQ⟩

theorem append (hS : Finds S P) (hT : Finds T Q) :
    Finds (fun cur => S cur ++ T cur) fun x m y => P x m y ∨ Q x m y := by
  intro x rest stop
  rw [List.mem_append, hS, hT]
  constructor
  · rintro (⟨m, y, h, hstop, hP⟩ | ⟨m, y, h, hstop, hQ⟩)
    · exact ⟨m, y, h, hstop, Or.inl hP⟩
    · exact ⟨m, y, h, hstop, Or.inr hQ⟩
  · rintro ⟨m, y, h, hstop, hP | hQ⟩
    · exact Or.inl ⟨m, y, h, hstop, hP⟩
    · exact Or.inr ⟨m, y, h, hstop, hQ⟩

/-- A step that is taken only where a condition on the place holds. -/
theorem guard {g : Cursor → Bool} {G : List Char → List Char → Prop}
    (hG : ∀ x y, g (.between x y) = true ↔ G x y) (hS : Finds S P) :
    Finds (fun cur => if g cur then S cur else []) fun x m y => G x (m ++ y) ∧ P x m y := by
  intro x rest stop
  dsimp only
  by_cases hg : g (.between x rest) = true
  · rw [if_pos hg, hS]
    constructor
    · rintro ⟨m, y, rfl, hstop, hP⟩
      exact ⟨m, y, rfl, hstop, (hG _ _).1 hg, hP⟩
    · rintro ⟨m, y, rfl, hstop, -, hP⟩
      exact ⟨m, y, rfl, hstop, hP⟩
  · rw [if_neg hg]
    constructor
    · exact fun h => absurd h List.not_mem_nil
    · rintro ⟨m, y, rfl, -, hg', -⟩
      exact absurd ((hG _ _).2 hg') hg

theorem stepsUpTo (hS : Finds S P) (bound : Nat) : Finds (stepsUpTo S bound) (P.upTo bound) := by
  induction bound with
  | zero => exact here
  | succ bound ih => exact (hS.flatMap ih).append here

end Finds

namespace CharSet

variable (mode : CaseMode) (set : CharSet)

theorem finds_step : Finds (set.step mode) fun _ m _ => ∃ c, m = [c] ∧ set.has mode c = true := by
  intro x rest stop
  cases rest with
  | nil =>
    simp only [step, Cursor.between, List.not_mem_nil, false_iff]
    rintro ⟨m, y, h, -, c, rfl, -⟩
    simp at h
  | cons d rest =>
    simp only [step, Cursor.between]
    split
    · rename_i hd
      rw [List.mem_singleton]
      constructor
      · rintro rfl
        exact ⟨[d], rest, rfl, by simp, d, rfl, hd⟩
      · rintro ⟨m, y, h, rfl, c, rfl, -⟩
        obtain ⟨rfl, rfl⟩ := List.cons.inj h
        simp
    · rename_i hd
      simp only [List.not_mem_nil, false_iff]
      rintro ⟨m, y, h, -, c, rfl, hc⟩
      obtain ⟨rfl, -⟩ := List.cons.inj h
      exact hd hc

/-- What is reached is what was nearer, or lies behind more characters of the set. -/
theorem mem_reach {nearer : List Cursor} {x rest : List Char} {stop : Cursor} :
    stop ∈ set.reach mode nearer x.reverse rest ↔ stop ∈ nearer ∨
      ∃ m y, rest = m ++ y ∧ stop = .between (x ++ m) y ∧ ∀ c ∈ m, set.has mode c = true := by
  induction rest generalizing nearer x with
  | nil =>
    simp only [reach, List.mem_cons, List.nil_eq_append_iff]
    constructor
    · rintro (rfl | h)
      · exact Or.inr ⟨[], [], ⟨rfl, rfl⟩, by simp [Cursor.between], by simp⟩
      · exact Or.inl h
    · rintro (h | ⟨m, y, ⟨rfl, rfl⟩, rfl, -⟩)
      · exact Or.inr h
      · exact Or.inl (by simp [Cursor.between])
  | cons d rest ih =>
    -- the place in front of `d` is reached in both cases, those behind `d` only if `d` is taken
    have hhere : ∀ {y : List Char}, Cursor.between (x ++ []) y = ⟨x.reverse, y⟩ := by
      simp [Cursor.between]
    have hbehind : d :: x.reverse = (x ++ [d]).reverse := by simp
    simp only [reach]
    split
    · rename_i hd
      rw [hbehind, ih, List.mem_cons]
      constructor
      · rintro ((rfl | h) | ⟨m, y, rfl, rfl, hm⟩)
        · exact Or.inr ⟨[], d :: rest, rfl, hhere.symm, by simp⟩
        · exact Or.inl h
        · exact Or.inr ⟨d :: m, y, rfl, by simp, List.forall_mem_cons.2 ⟨hd, hm⟩⟩
      · rintro (h | ⟨m, y, h, rfl, hm⟩)
        · exact Or.inl (Or.inr h)
        · cases m with
          | nil =>
            obtain rfl : d :: rest = y := h
            exact Or.inl (Or.inl hhere)
          | cons e m =>
            obtain ⟨rfl, rfl⟩ := List.cons.inj h
            exact Or.inr ⟨m, y, rfl, by simp, (List.forall_mem_cons.1 hm).2⟩
    · rename_i hd
      rw [List.mem_cons]
      constructor
      · rintro (rfl | h)
        · exact Or.inr ⟨[], d :: rest, rfl, hhere.symm, by simp⟩
        · exact Or.inl h
      · rintro (h | ⟨m, y, h, rfl, hm⟩)
        · exact Or.inr h
        · cases m with
          | nil =>
            obtain rfl : d :: rest = y := h
            exact Or.inl hhere
          | cons e m =>
            obtain ⟨rfl, rfl⟩ := List.cons.inj h
            exact absurd (hm d List.mem_cons_self) hd

theorem finds_star : Finds (fun cur => set.reach mode [] cur.before cur.after)
    fun _ m _ => ∀ c ∈ m, set.has mode c = true := by
  intro x rest stop
  refine (mem_reach mode set).trans ?_
  rw [or_iff_right List.not_mem_nil]
  rfl

theorem finds_ends (times : Times) :
    Finds (fun cur => set.ends mode cur times) fun _ m _ => set.Takes mode m times := by
  cases times with
  | once => exact finds_step mode set
  | optional => exact (finds_step mode set).append .here
  | star => exact finds_star mode set
  | plus =>
    intro x rest stop
    refine ((finds_step mode set).flatMap (finds_star mode set) x rest stop).trans ?_
    constructor
    · rintro ⟨m, y, h, hstop, a, b, rfl, ⟨c, rfl, hc⟩, hb⟩
      exact ⟨[c] ++ b, y, h, hstop, by simp, List.forall_mem_cons.2 ⟨hc, hb⟩⟩
    · rintro ⟨m, y, h, hstop, hne, hm⟩
      obtain ⟨c, b, rfl⟩ := List.exists_cons_of_ne_nil hne
      obtain ⟨hc, hb⟩ := List.forall_mem_cons.1 hm
      exact ⟨c :: b, y, h, hstop, [c], b, rfl, ⟨c, rfl, hc⟩, hb⟩

end CharSet

namespace Pattern

theorem finds_ends (mode : CaseMode) {kind : PatternKind} (p : Pattern kind) :
    Finds (p.ends mode) (p.Matches mode) := by
  induction p with
  | done => exact Finds.here
  | take set times next ih => exact (set.finds_ends mode times).flatMap ih
  | anchor a next ih => exact Finds.guard a.holds_iff ih
  | group body next hbody ih => exact hbody.flatMap ih
  | upTo bound body next hbody ih => exact (hbody.stepsUpTo bound).flatMap ih
  | ahead holds body next hbody ih =>
    refine Finds.guard (g := fun cur => (body.ends mode cur).isEmpty == !holds)
      (G := fun x rest => (∃ a b, rest = a ++ b ∧ body.Matches mode x a b) ↔ holds = true)
      (fun x rest => ?_) ih
    have hany : (body.ends mode (.between x rest)).isEmpty = false ↔
        ∃ a b, rest = a ++ b ∧ body.Matches mode x a b := by
      rw [← Bool.not_eq_true, List.isEmpty_iff]
      constructor
      · intro hne
        obtain ⟨stop, hstop⟩ := List.exists_mem_of_ne_nil _ hne
        obtain ⟨a, b, h, -, hm⟩ := (hbody _ _ _).1 hstop
        exact ⟨a, b, h, hm⟩
      · rintro ⟨a, b, h, hm⟩
        exact List.ne_nil_of_mem ((hbody _ _ _).2 ⟨a, b, h, rfl, hm⟩)
    rw [← hany]
    cases (body.ends mode (.between x rest)).isEmpty <;> cases holds <;> simp
  | last only ih => exact ih
  | orElse first others h₁ h₂ => exact h₁.append h₂

/-- **The search finds the matches.**  A place is an end of a match exactly when the stretch of the
text up to it is one. -/
theorem mem_ends_iff {mode : CaseMode} {kind : PatternKind} {p : Pattern kind}
    {x rest : List Char} {stop : Cursor} : stop ∈ p.ends mode (.between x rest) ↔
      ∃ m y, rest = m ++ y ∧ stop = .between (x ++ m) y ∧ p.Matches mode x m y :=
  finds_ends mode p x rest stop

/-- A stretch is a match exactly when the search from its start finds its end. -/
theorem matches_iff_mem_ends {mode : CaseMode} {kind : PatternKind} {p : Pattern kind}
    {x m y : List Char} :
    p.Matches mode x m y ↔ .between (x ++ m) y ∈ p.ends mode (.between x (m ++ y)) := by
  rw [mem_ends_iff]
  constructor
  · exact fun h => ⟨m, y, rfl, rfl, h⟩
  · rintro ⟨m', y', -, hstop, h⟩
    obtain ⟨hbefore, rfl⟩ := Cursor.mk.inj hstop
    obtain rfl := List.append_cancel_left (List.reverse_inj.1 hbefore)
    exact h

/-- **A text is a result when one of its stretches is a match.** -/
theorem matchesText_iff {mode : CaseMode} {p : Pattern .sequence} {text : List Char} :
    p.matchesText mode text = true ↔ ∃ x m y, text = x ++ m ++ y ∧ p.Matches mode x m y := by
  simp only [matchesText, List.any_eq_true, Cursor.mem_places, Bool.not_eq_true',
    ← Bool.not_eq_true, List.isEmpty_iff]
  constructor
  · rintro ⟨cur, ⟨x, rest, rfl, rfl⟩, hne⟩
    obtain ⟨stop, hstop⟩ := List.exists_mem_of_ne_nil _ hne
    obtain ⟨m, y, rfl, -, hm⟩ := mem_ends_iff.1 hstop
    exact ⟨x, m, y, by simp, hm⟩
  · rintro ⟨x, m, y, rfl, hm⟩
    refine ⟨.between x (m ++ y), ⟨x, m ++ y, by simp, rfl⟩, ?_⟩
    exact List.ne_nil_of_mem (mem_ends_iff.2 ⟨m, y, rfl, rfl, hm⟩)

/-! ## 4. Spans -/

/-- The stretch is the match that the search prefers among those that begin where it does. -/
def Prefers (mode : CaseMode) {kind : PatternKind} (p : Pattern kind) : Reading :=
  fun x m y => (p.ends mode (.between x (m ++ y))).head? = some (.between (x ++ m) y)

theorem Prefers.matches {mode : CaseMode} {kind : PatternKind} {p : Pattern kind}
    {x m y : List Char} (h : p.Prefers mode x m y) : p.Matches mode x m y :=
  matches_iff_mem_ends.2 (List.mem_of_mem_head? h)

/-- **What the pass does at a place.**  Inside a span it goes on.  Else it goes on if no match
begins there, or if the preferred one is empty; and if the preferred one is `d :: m`, it begins a
span and has the rest of it in front. -/
theorem spansFrom_cons_cases (mode : CaseMode) (p : Pattern .sequence) (covered : Nat)
    (x : List Char) (c : Char) (rest : List Char) :
    (∃ k, covered = k + 1 ∧
      p.spansFrom mode covered x.reverse (c :: rest) = p.spansFrom mode k (x ++ [c]).reverse rest) ∨
    (covered = 0 ∧
      ((∀ m y, c :: rest = m ++ y → ¬p.Matches mode x m y) ∨ p.Matches mode x [] (c :: rest)) ∧
      p.spansFrom mode covered x.reverse (c :: rest) = p.spansFrom mode 0 (x ++ [c]).reverse rest) ∨
    (covered = 0 ∧ ∃ d m y, c :: rest = d :: m ++ y ∧ p.Prefers mode x (d :: m) y ∧
      p.spansFrom mode covered x.reverse (c :: rest) =
        ⟨x.length, (x ++ d :: m).length⟩ :: p.spansFrom mode m.length (x ++ [c]).reverse rest) := by
  rw [show (x ++ [c]).reverse = c :: x.reverse by simp]
  match covered with
  | k + 1 => exact Or.inl ⟨k, rfl, rfl⟩
  | 0 =>
    refine Or.inr ?_
    match hends : p.ends mode (.between x (c :: rest)) with
    | [] =>
      refine Or.inl ⟨rfl, Or.inl fun m y hrest hm => ?_, ?_⟩
      · have hmem := mem_ends_iff.2 ⟨m, y, hrest, rfl, hm⟩
        rw [hends] at hmem
        exact absurd hmem List.not_mem_nil
      · rw [Cursor.between] at hends
        simp only [spansFrom, hends]
    | stop :: stops =>
      obtain ⟨m, y, hrest, rfl, hm⟩ := mem_ends_iff.1 (hends ▸ List.mem_cons_self (l := stops))
      have hwidth : (c :: rest).length - (Cursor.between (x ++ m) y).after.length = m.length := by
        rw [hrest, List.length_append]
        exact Nat.add_sub_cancel _ _
      have hprefers : p.Prefers mode x m y := by
        rw [Prefers, ← hrest, hends, List.head?_cons]
      rw [Cursor.between] at hends
      cases m with
      | nil =>
        refine Or.inl ⟨rfl, Or.inr ?_, ?_⟩
        · rw [hrest]
          exact hm
        · simp only [spansFrom, hends]
          rw [hwidth]
          rfl
      | cons d m =>
        refine Or.inr ⟨rfl, d, m, y, hrest, hprefers, ?_⟩
        simp only [spansFrom, hends]
        rw [hwidth]
        simp only [List.length_reverse, List.length_append, List.length_cons]

theorem exists_of_mem_spansFrom {mode : CaseMode} {p : Pattern .sequence} {span : Span}
    {covered : Nat} {x rest : List Char} (h : span ∈ p.spansFrom mode covered x.reverse rest) :
    ∃ a m y, rest = a ++ m ++ y ∧ m ≠ [] ∧ p.Prefers mode (x ++ a) m y ∧
      span = ⟨(x ++ a).length, (x ++ a ++ m).length⟩ := by
  induction rest generalizing covered x with
  | nil => exact absurd h List.not_mem_nil
  | cons c rest ih =>
    -- what is found behind `c` is found with `c` in front of it
    have hbehind : ∀ {k : Nat}, span ∈ p.spansFrom mode k (x ++ [c]).reverse rest →
        ∃ a m y, c :: rest = a ++ m ++ y ∧ m ≠ [] ∧ p.Prefers mode (x ++ a) m y ∧
          span = ⟨(x ++ a).length, (x ++ a ++ m).length⟩ := by
      intro k hk
      obtain ⟨a, m, y, rfl, hne, hm, hspan⟩ := ih hk
      exact ⟨c :: a, m, y, rfl, hne, by simpa using hm, by simpa using hspan⟩
    rcases spansFrom_cons_cases mode p covered x c rest with
      ⟨k, -, hpass⟩ | ⟨-, -, hpass⟩ | ⟨-, d, m, y, hrest, hm, hpass⟩
    · rw [hpass] at h
      exact hbehind h
    · rw [hpass] at h
      exact hbehind h
    · rw [hpass] at h
      rcases List.mem_cons.1 h with rfl | h
      · exact ⟨[], d :: m, y, hrest, List.cons_ne_nil _ _, by simpa using hm, by simp⟩
      · exact hbehind h

/-- **Every span is a preferred match**, and has at least one character. -/
theorem exists_prefers_of_mem_spans {mode : CaseMode} {p : Pattern .sequence} {text : List Char}
    {span : Span} (h : span ∈ p.spans mode text) :
    ∃ x m y, text = x ++ m ++ y ∧ m ≠ [] ∧ p.Prefers mode x m y ∧
      span = ⟨x.length, (x ++ m).length⟩ :=
  exists_of_mem_spansFrom (x := []) h

/-- The stretch that a span marks is a preferred match. -/
theorem prefers_of_mem_spans {mode : CaseMode} {p : Pattern .sequence} {x m y : List Char}
    (h : ⟨x.length, (x ++ m).length⟩ ∈ p.spans mode (x ++ m ++ y)) :
    m ≠ [] ∧ p.Prefers mode x m y := by
  obtain ⟨x', m', y', htext, hne, hprefers, hspan⟩ := exists_prefers_of_mem_spans h
  obtain ⟨hx, hxm⟩ := Span.mk.inj hspan
  obtain ⟨hfront, rfl⟩ := List.append_inj htext hxm
  obtain ⟨rfl, rfl⟩ := List.append_inj hfront hx
  exact ⟨hne, hprefers⟩

/-- **Every span is a match**, and has at least one character. -/
theorem exists_of_mem_spans {mode : CaseMode} {p : Pattern .sequence} {text : List Char}
    {span : Span} (h : span ∈ p.spans mode text) :
    ∃ x m y, text = x ++ m ++ y ∧ m ≠ [] ∧ p.Matches mode x m y ∧
      span = ⟨x.length, (x ++ m).length⟩ := by
  obtain ⟨x, m, y, htext, hne, hprefers, hspan⟩ := exists_prefers_of_mem_spans h
  exact ⟨x, m, y, htext, hne, hprefers.matches, hspan⟩

end Pattern

end VerseQuery
