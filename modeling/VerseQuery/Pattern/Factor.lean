/-
# Factoring choices

Alternatives that all begin alike are searched with their common beginning in front of the choice.
Factoring changes which end of a match is preferred, because every way to match the beginning is
tried with all the alternatives before the next way is; but the places where a match can end stay
the same (`mem_ends_factored`), and so do the texts that match (`matchesText_factored`).

What alternatives have in common is counted in **blocks**.  Characters that have no other case and
stand side by side are one block, and so is any other element of a sequence.  A choice with an
alternative of less than two blocks is left as it is.
-/
import VerseQuery.Pattern.Matcher

namespace VerseQuery

open Text

/-! ## 1. Elements that match alike -/

/-- Whether the two sets hold the same characters because they are of one form. -/
def CharSet.alike (mode : CaseMode) : CharSet → CharSet → Bool
  | char c, char d => mode.key c == mode.key d
  | s, t => s == t

theorem CharSet.has_eq_of_alike {mode : CaseMode} {s t : CharSet} (h : s.alike mode t = true) :
    s.has mode = t.has mode := by
  funext c
  cases s <;> cases t <;> simp_all [alike, has]

theorem CharSet.reach_eq_of_has {mode : CaseMode} {s t : CharSet} (h : s.has mode = t.has mode)
    (nearer : List Cursor) (before after : List Char) :
    s.reach mode nearer before after = t.reach mode nearer before after := by
  induction after generalizing nearer before with
  | nil => rfl
  | cons c rest ih => simp only [reach, h, ih]

theorem CharSet.step_eq_of_has {mode : CaseMode} {s t : CharSet} (h : s.has mode = t.has mode) :
    s.step mode = t.step mode := by
  funext cur
  simp only [step, h]

theorem CharSet.ends_eq_of_alike {mode : CaseMode} {s t : CharSet} (h : s.alike mode t = true)
    (cur : Cursor) (times : Times) : s.ends mode cur times = t.ends mode cur times := by
  have hhas := has_eq_of_alike h
  cases times <;> simp only [ends, step_eq_of_has hhas, reach_eq_of_has hhas]

namespace Pattern

/-- Whether the two patterns are the same but for characters that differ in case only. -/
def alike (mode : CaseMode) : {kind : PatternKind} → Pattern kind → Pattern kind → Bool
  | _, done, done => true
  | _, take s t next, take s' t' next' => s.alike mode s' && t == t' && next.alike mode next'
  | _, anchor a next, anchor a' next' => a == a' && next.alike mode next'
  | _, group body next, group body' next' => body.alike mode body' && next.alike mode next'
  | _, upTo bound body next, upTo bound' body' next' =>
    bound == bound' && body.alike mode body' && next.alike mode next'
  | _, ahead holds body next, ahead holds' body' next' =>
    holds == holds' && body.alike mode body' && next.alike mode next'
  | _, last only, last only' => only.alike mode only'
  | _, orElse first others, orElse first' others' =>
    first.alike mode first' && others.alike mode others'
  | _, _, _ => false

/-- Patterns that are alike match alike. -/
theorem ends_eq_of_alike {mode : CaseMode} {kind : PatternKind} {p q : Pattern kind}
    (h : p.alike mode q = true) : p.ends mode = q.ends mode := by
  induction p with
  | done => cases q <;> simp_all [alike]
  | take s t next ih =>
    cases q <;> simp only [alike, Bool.and_eq_true, beq_iff_eq, Bool.false_eq_true] at h
    obtain ⟨⟨hs, rfl⟩, hn⟩ := h
    funext cur
    simp only [ends, CharSet.ends_eq_of_alike hs, ih hn]
  | anchor a next ih =>
    cases q <;> simp only [alike, Bool.and_eq_true, beq_iff_eq, Bool.false_eq_true] at h
    obtain ⟨rfl, hn⟩ := h
    funext cur
    simp only [ends, ih hn]
  | group body next hb ih =>
    cases q <;> simp only [alike, Bool.and_eq_true, Bool.false_eq_true] at h
    funext cur
    simp only [ends, hb h.1, ih h.2]
  | upTo bound body next hb ih =>
    cases q <;> simp only [alike, Bool.and_eq_true, beq_iff_eq, Bool.false_eq_true] at h
    obtain ⟨⟨rfl, hbody⟩, hn⟩ := h
    funext cur
    simp only [ends, hb hbody, ih hn]
  | ahead holds body next hb ih =>
    cases q <;> simp only [alike, Bool.and_eq_true, beq_iff_eq, Bool.false_eq_true] at h
    obtain ⟨⟨rfl, hbody⟩, hn⟩ := h
    funext cur
    simp only [ends, hb hbody, ih hn]
  | last only ih =>
    cases q <;> simp only [alike, Bool.false_eq_true] at h
    funext cur
    simp only [ends, ih h]
  | orElse first others h₁ h₂ =>
    cases q <;> simp only [alike, Bool.and_eq_true, Bool.false_eq_true] at h
    funext cur
    simp only [ends, h₁ h.1, h₂ h.2]

/-! ## 2. Blocks -/

/-- Whether the sequence begins with a character that has no other case. -/
def startsLiteral (mode : CaseMode) : Pattern .sequence → Bool
  | take (.char c) .once _ => mode.isSingle c
  | _ => false

/-- A first element that holds one character, in front of the blocks after it. -/
def joinBlock (mode : CaseMode) (element : Pattern .sequence) :
    List (Pattern .sequence) → List (Pattern .sequence)
  | [] => [element]
  | block :: rest =>
    if element.startsLiteral mode && block.startsLiteral mode then element.append block :: rest
    else element :: block :: rest

/-- The blocks of a sequence, in order; a choice has none. -/
def blocks (mode : CaseMode) : {kind : PatternKind} → Pattern kind → List (Pattern .sequence)
  | _, done => []
  | _, take set times next => joinBlock mode (take set times done) (next.blocks mode)
  | _, anchor a next => anchor a done :: next.blocks mode
  | _, group body next => group body done :: next.blocks mode
  | _, upTo bound body next => upTo bound body done :: next.blocks mode
  | _, ahead holds body next => ahead holds body done :: next.blocks mode
  | .choice, _ => []

theorem concat_cons (p : Pattern .sequence) (ps : List (Pattern .sequence)) :
    concat (p :: ps) = p.append (concat ps) := rfl

theorem concat_append (ps qs : List (Pattern .sequence)) :
    concat (ps ++ qs) = (concat ps).append (concat qs) := by
  induction ps with
  | nil => rfl
  | cons p ps ih => rw [List.cons_append, concat_cons, concat_cons, ih, append_assoc]

theorem concat_joinBlock (mode : CaseMode) (element : Pattern .sequence)
    (bs : List (Pattern .sequence)) :
    concat (joinBlock mode element bs) = element.append (concat bs) := by
  cases bs with
  | nil => rfl
  | cons block rest =>
    simp only [joinBlock]
    split <;> simp only [concat_cons, append_assoc]

/-- A sequence is its blocks one after another. -/
theorem concat_blocks (mode : CaseMode) : ∀ p : Pattern .sequence, concat (p.blocks mode) = p
  | done => by simp only [blocks, concat, List.foldr]
  | take set times next => by
    simp only [blocks, concat_joinBlock, append, concat_blocks mode next]
  | anchor a next => by simp only [blocks, concat_cons, append, concat_blocks mode next]
  | group body next => by simp only [blocks, concat_cons, append, concat_blocks mode next]
  | upTo bound body next => by simp only [blocks, concat_cons, append, concat_blocks mode next]
  | ahead holds body next => by simp only [blocks, concat_cons, append, concat_blocks mode next]

/-- How many blocks at the front of the two rows are alike. -/
def sharedLength (mode : CaseMode) : List (Pattern .sequence) → List (Pattern .sequence) → Nat
  | b :: bs, c :: cs => if b.alike mode c then sharedLength mode bs cs + 1 else 0
  | _, _ => 0

/-- Beginnings of no more than the shared blocks match alike. -/
theorem ends_take_sharedLength {mode : CaseMode} {n : Nat} {bs cs : List (Pattern .sequence)}
    (h : n ≤ sharedLength mode bs cs) :
    (concat (bs.take n)).ends mode = (concat (cs.take n)).ends mode := by
  induction n generalizing bs cs with
  | zero => rfl
  | succ n ih =>
    match bs, cs with
    | [], _ => simp [sharedLength] at h
    | b :: bs, [] => simp [sharedLength] at h
    | b :: bs, c :: cs =>
      simp only [sharedLength] at h
      split at h
      · rename_i hbc
        funext cur
        simp only [List.take_succ_cons, concat_cons, ends_append, ends_eq_of_alike hbc,
          ih (Nat.le_of_succ_le_succ h)]
      · omega

/-! ## 3. Choices -/

/-- The alternatives of a choice, in order; a sequence is the only one of itself. -/
def alternatives : {kind : PatternKind} → Pattern kind → List (Pattern .sequence)
  | .sequence, p => [p]
  | _, last only => [only]
  | _, orElse first others => first :: others.alternatives

theorem mem_ends_iff_alternatives {mode : CaseMode} {p : Pattern .choice} {cur stop : Cursor} :
    stop ∈ p.ends mode cur ↔ ∃ q ∈ p.alternatives, stop ∈ q.ends mode cur := by
  match p with
  | last only => simp [ends, alternatives]
  | orElse first others =>
    simp [ends, alternatives, mem_ends_iff_alternatives (p := others)]

theorem alternatives_choiceOf (p : Pattern .sequence) (ps : List (Pattern .sequence)) :
    (choiceOf p ps).alternatives = p :: ps := by
  induction ps generalizing p with
  | nil => simp only [choiceOf, alternatives]
  | cons q qs ih => simp only [choiceOf, alternatives, ih]

/-- How many blocks all the rows share with the first. -/
def commonLength (mode : CaseMode) (first : List (Pattern .sequence)) :
    List (List (Pattern .sequence)) → Nat
  | [] => first.length
  | row :: rows => min (sharedLength mode first row) (commonLength mode first rows)

theorem commonLength_le {mode : CaseMode} {first row : List (Pattern .sequence)}
    {rows : List (List (Pattern .sequence))} (h : row ∈ rows) :
    commonLength mode first rows ≤ sharedLength mode first row := by
  induction rows with
  | nil => simp at h
  | cons r rows ih =>
    simp only [commonLength]
    rcases List.mem_cons.1 h with rfl | h
    · exact Nat.min_le_left _ _
    · exact Nat.le_trans (Nat.min_le_right _ _) (ih h)

/-- The choice between the given rows of blocks, their common beginning in front of it. -/
def liftRows (mode : CaseMode) (first : List (Pattern .sequence))
    (others : List (List (Pattern .sequence))) : Pattern .choice :=
  let n := commonLength mode first others
  last ((concat (first.take n)).append
    (group (choiceOf (concat (first.drop n)) (others.map fun row => concat (row.drop n))) done))

/-- The choice with the common beginning of its alternatives in front of it, if it has one. -/
def lift (mode : CaseMode) (body : Pattern .choice) : Pattern .choice :=
  match body.alternatives.map (blocks mode) with
  | first :: second :: others =>
    let rows := second :: others
    if (first :: rows).all (2 ≤ ·.length) && 0 < commonLength mode first rows then
      liftRows mode first rows
    else body
  | _ => body

/-- A row of blocks matches as its beginning and then its end do. -/
theorem mem_ends_concat_iff {mode : CaseMode} {row : List (Pattern .sequence)} (n : Nat)
    {cur stop : Cursor} : stop ∈ (concat row).ends mode cur ↔
      ∃ mid ∈ (concat (row.take n)).ends mode cur, stop ∈ (concat (row.drop n)).ends mode mid := by
  have h : concat row = (concat (row.take n)).append (concat (row.drop n)) := by
    rw [← concat_append, List.take_append_drop]
  rw [h, ends_append, List.mem_flatMap]

theorem mem_ends_liftRows {mode : CaseMode} {first : List (Pattern .sequence)}
    {others : List (List (Pattern .sequence))} {cur stop : Cursor} :
    stop ∈ (liftRows mode first others).ends mode cur ↔
      ∃ row ∈ first :: others, stop ∈ (concat row).ends mode cur := by
  have hfirst : ∀ row ∈ first :: others,
      (concat (row.take (commonLength mode first others))).ends mode
        = (concat (first.take (commonLength mode first others))).ends mode := by
    intro row hrow
    rcases List.mem_cons.1 hrow with rfl | hrow
    · rfl
    · exact (ends_take_sharedLength (commonLength_le hrow)).symm
  simp only [liftRows, ends, ends_append, List.mem_flatMap, List.mem_singleton,
    mem_ends_iff_alternatives, alternatives_choiceOf]
  constructor
  · rintro ⟨mid, hmid, end', ⟨q, hq, hend⟩, rfl⟩
    rcases List.mem_cons.1 hq with rfl | hq
    · exact ⟨first, by simp, (mem_ends_concat_iff _).2 ⟨mid, hmid, hend⟩⟩
    · obtain ⟨row, hrow, rfl⟩ := List.mem_map.1 hq
      have hmem : row ∈ first :: others := List.mem_cons_of_mem _ hrow
      exact ⟨row, hmem, (mem_ends_concat_iff _).2 ⟨mid, by rwa [hfirst row hmem], hend⟩⟩
  · rintro ⟨row, hrow, h⟩
    obtain ⟨mid, hmid, hend⟩ := (mem_ends_concat_iff (commonLength mode first others)).1 h
    rw [hfirst row hrow] at hmid
    refine ⟨mid, hmid, stop, ⟨_, ?_, hend⟩, rfl⟩
    rcases List.mem_cons.1 hrow with rfl | hrow
    · exact List.mem_cons_self
    · exact List.mem_cons_of_mem _ (List.mem_map.2 ⟨row, hrow, rfl⟩)

/-- Lifting keeps the places where a match can end. -/
theorem mem_ends_lift {mode : CaseMode} {body : Pattern .choice} {cur stop : Cursor} :
    stop ∈ (lift mode body).ends mode cur ↔ stop ∈ body.ends mode cur := by
  unfold lift
  split
  · rename_i first second others hrows
    dsimp only
    split
    · rw [mem_ends_liftRows, mem_ends_iff_alternatives, ← hrows]
      constructor
      · rintro ⟨row, hrow, h⟩
        obtain ⟨q, hq, rfl⟩ := List.mem_map.1 hrow
        exact ⟨q, hq, by rwa [concat_blocks] at h⟩
      · rintro ⟨q, hq, h⟩
        exact ⟨_, List.mem_map.2 ⟨q, hq, rfl⟩, by rwa [concat_blocks]⟩
    · rfl
  · rfl

/-! ## 4. Patterns -/

/-- The pattern with every choice factored, those inside first. -/
def factored (mode : CaseMode) : {kind : PatternKind} → Pattern kind → Pattern kind
  | _, done => done
  | _, take set times next => take set times (next.factored mode)
  | _, anchor a next => anchor a (next.factored mode)
  | _, group body next => group (lift mode (body.factored mode)) (next.factored mode)
  | _, upTo bound body next =>
    upTo bound (lift mode (body.factored mode)) (next.factored mode)
  | _, ahead holds body next => ahead holds (body.factored mode) (next.factored mode)
  | _, last only => last (only.factored mode)
  | _, orElse first others => orElse (first.factored mode) (others.factored mode)

/-- A pattern and then another are factored one by one. -/
theorem factored_append (mode : CaseMode) {kind : PatternKind} (p : Pattern kind)
    (q : Pattern .sequence) :
    (p.append q).factored mode = (p.factored mode).append (q.factored mode) := by
  induction p with
  | done => rfl
  | take set times next ih => simp only [append, factored, ih]
  | anchor a next ih => simp only [append, factored, ih]
  | group body next _ ih => simp only [append, factored, ih]
  | upTo bound body next _ ih => simp only [append, factored, ih]
  | ahead holds body next _ ih => simp only [append, factored, ih]
  | last only ih => simp only [append, factored, ih]
  | orElse first others h₁ h₂ => simp only [append, factored, h₁, h₂]

theorem mem_stepsUpTo_congr {step step' : Cursor → List Cursor}
    (h : ∀ {cur stop}, stop ∈ step cur ↔ stop ∈ step' cur) {bound : Nat} {cur stop : Cursor} :
    stop ∈ stepsUpTo step bound cur ↔ stop ∈ stepsUpTo step' bound cur := by
  induction bound generalizing cur with
  | zero => rfl
  | succ bound ih => simp only [stepsUpTo, List.mem_append, List.mem_flatMap, ih, h]

/-- **Factoring keeps the places where a match can end.** -/
theorem mem_ends_factored {mode : CaseMode} {kind : PatternKind} {p : Pattern kind}
    {cur stop : Cursor} : stop ∈ (p.factored mode).ends mode cur ↔ stop ∈ p.ends mode cur := by
  induction p generalizing cur stop with
  | done => rfl
  | take set times next ih => simp only [factored, ends, List.mem_flatMap, ih]
  | anchor a next ih =>
    simp only [factored, ends]
    split
    · exact ih
    · rfl
  | group body next hb ih =>
    simp only [factored, ends, List.mem_flatMap, mem_ends_lift, hb, ih]
  | upTo bound body next hb ih =>
    have hbody : ∀ {cur stop}, stop ∈ (lift mode (body.factored mode)).ends mode cur ↔
        stop ∈ body.ends mode cur := mem_ends_lift.trans hb
    simp only [factored, ends, List.mem_flatMap, mem_stepsUpTo_congr hbody, ih]
  | ahead holds body next hb ih =>
    have hempty : ((body.factored mode).ends mode cur).isEmpty = (body.ends mode cur).isEmpty := by
      rw [Bool.eq_iff_iff, List.isEmpty_iff, List.isEmpty_iff, List.eq_nil_iff_forall_not_mem,
        List.eq_nil_iff_forall_not_mem]
      simp only [hb]
    simp only [factored, ends, hempty]
    split
    · exact ih
    · rfl
  | last only ih => exact ih
  | orElse first others h₁ h₂ => simp only [factored, ends, List.mem_append, h₁, h₂]

/-- Factoring keeps the texts that match. -/
theorem matchesText_factored (mode : CaseMode) (p : Pattern .sequence) (text : List Char) :
    (p.factored mode).matchesText mode text = p.matchesText mode text := by
  have hempty : ∀ cur, ((p.factored mode).ends mode cur).isEmpty = (p.ends mode cur).isEmpty := by
    intro cur
    rw [Bool.eq_iff_iff, List.isEmpty_iff, List.isEmpty_iff, List.eq_nil_iff_forall_not_mem,
      List.eq_nil_iff_forall_not_mem]
    simp only [mem_ends_factored]
  simp only [matchesText, hempty]

end Pattern

end VerseQuery
