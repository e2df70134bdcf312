/-
# Searches that are blind to case

A search without regard to case does not see the case of anything.  It is run over two texts that
agree but for case step by step at the same places (`Pattern.blind_ends`): no set of characters and
no anchor tells them apart.  So it has the same spans in both.  And it finds the same with words
that agree with its own but for case: they are trimmed alike, count or do not count alike, and read
like the same stretches of a text (`Request.SameButCase.foundIn`).

Lists that agree entry by entry are related by `List.Forall₂`.
-/
import Mathlib.Data.List.Forall2
import VerseQuery.Proofs.Folding
import VerseQuery.Proofs.Widening

namespace VerseQuery

open Text

/-! ## 1. Searching texts that agree -/

/-- The two places are in texts that agree, as far from either end. -/
structure Cursor.SameAt (mode : CaseMode) (cur cur' : Cursor) : Prop where
  before : SameText mode cur.before cur'.before
  after : SameText mode cur.after cur'.after

/-- The search step goes from places in texts that agree to such places. -/
def Blind (mode : CaseMode) (step : Cursor → List Cursor) : Prop :=
  ∀ ⦃cur cur' : Cursor⦄, cur.SameAt mode cur' →
    List.Forall₂ (Cursor.SameAt mode) (step cur) (step cur')

section Lists

variable {α β : Type} {R : α → β → Prop} {xs : List α} {ys : List β}

theorem isEmpty_eq_of_forall₂ (h : List.Forall₂ R xs ys) : xs.isEmpty = ys.isEmpty := by
  cases h <;> rfl

theorem any_eq_of_forall₂ {f : α → Bool} {g : β → Bool} (h : List.Forall₂ R xs ys)
    (hfg : ∀ x y, R x y → f x = g y) : xs.any f = ys.any g := by
  induction h with
  | nil => rfl
  | cons hxy _ ih => rw [List.any_cons, List.any_cons, hfg _ _ hxy, ih]

theorem exists_mem_of_forall₂ (h : List.Forall₂ R xs ys) {x : α} (hx : x ∈ xs) :
    ∃ y ∈ ys, R x y := by
  induction h with
  | nil => exact absurd hx List.not_mem_nil
  | cons hxy _ ih =>
    rcases List.mem_cons.1 hx with rfl | hx
    · exact ⟨_, List.mem_cons_self, hxy⟩
    · obtain ⟨y, hy, hR⟩ := ih hx
      exact ⟨y, List.mem_cons_of_mem _ hy, hR⟩

end Lists

namespace SameText

variable {mode : CaseMode} {c d : Char} {a b : List Char}

theorem cons (hkey : mode.key c = mode.key d) (h : SameText mode a b) :
    SameText mode (c :: a) (d :: b) :=
  cons_iff.2 ⟨c, a, Eq.refl _, hkey, h⟩

theorem exists_of_cons (h : SameText mode (c :: a) b) :
    ∃ d rest, b = d :: rest ∧ mode.key c = mode.key d ∧ SameText mode a rest := by
  obtain ⟨d, rest, hb, hkey, hrest⟩ := cons_iff.1 h.symm
  exact ⟨d, rest, hb, hkey.symm, hrest.symm⟩

theorem meetsWord (h : SameText mode a b) : Cursor.meetsWord a = Cursor.meetsWord b := by
  cases a with
  | nil => rw [nil_iff.1 h.symm]
  | cons c a =>
    obtain ⟨d, rest, rfl, hkey, -⟩ := h.exists_of_cons
    rw [Cursor.meetsWord, Cursor.meetsWord, ← isWordChar_key mode c, hkey, isWordChar_key]

theorem isEmpty (h : SameText mode a b) : a.isEmpty = b.isEmpty := by
  rw [Bool.eq_iff_iff, List.isEmpty_iff_length_eq_zero, List.isEmpty_iff_length_eq_zero,
    h.length_eq]

end SameText

/-- No anchor tells the places apart. -/
theorem Cursor.SameAt.holds_eq {mode : CaseMode} {cur cur' : Cursor} (h : cur.SameAt mode cur')
    (a : Anchor) : a.holds cur = a.holds cur' := by
  cases a with
  | textStart => exact h.before.isEmpty
  | textEnd => exact h.after.isEmpty
  | wordEdge => rw [Anchor.holds, Anchor.holds, atWordEdge, atWordEdge, h.before.meetsWord,
      h.after.meetsWord]

namespace Blind

variable {mode : CaseMode} {S T : Cursor → List Cursor}

theorem here : Blind mode fun cur => [cur] :=
  fun _ _ h => .cons h .nil

theorem flatMap (hS : Blind mode S) (hT : Blind mode T) :
    Blind mode fun cur => (S cur).flatMap T :=
  fun _ _ h => List.rel_flatMap (hS h) hT

theorem append (hS : Blind mode S) (hT : Blind mode T) : Blind mode fun cur => S cur ++ T cur :=
  fun _ _ h => List.rel_append (hS h) (hT h)

/-- A step that is taken only where a condition holds that does not tell the places apart. -/
theorem guard {g : Cursor → Bool} (hg : ∀ cur cur', cur.SameAt mode cur' → g cur = g cur')
    (hS : Blind mode S) : Blind mode fun cur => if g cur then S cur else [] := by
  intro cur cur' h
  dsimp only
  rw [hg cur cur' h]
  split
  · exact hS h
  · exact .nil

theorem stepsUpTo (hS : Blind mode S) (bound : Nat) : Blind mode (stepsUpTo S bound) := by
  induction bound with
  | zero => exact here
  | succ bound ih => exact (hS.flatMap ih).append here

end Blind

namespace CharSet

variable {mode : CaseMode} (set : CharSet)

theorem blind_step : Blind mode (set.step mode) := by
  rintro ⟨before, after⟩ ⟨before', after'⟩ ⟨hbefore, hafter⟩
  cases after with
  | nil =>
    obtain rfl := SameText.nil_iff.1 hafter.symm
    exact .nil
  | cons c rest =>
    obtain ⟨d, rest', rfl, hkey, hrest⟩ := SameText.exists_of_cons hafter
    simp only [step, set.has_eq_of_key_eq hkey]
    split
    · exact .cons ⟨hbefore.cons hkey, hrest⟩ .nil
    · exact .nil

theorem forall₂_reach {nearer nearer' : List Cursor} {before before' rest rest' : List Char}
    (hnearer : List.Forall₂ (Cursor.SameAt mode) nearer nearer')
    (hbefore : SameText mode before before') (hrest : SameText mode rest rest') :
    List.Forall₂ (Cursor.SameAt mode) (set.reach mode nearer before rest)
      (set.reach mode nearer' before' rest') := by
  induction rest generalizing nearer nearer' before before' rest' with
  | nil =>
    obtain rfl := SameText.nil_iff.1 hrest.symm
    exact .cons ⟨hbefore, hrest⟩ hnearer
  | cons c rest ih =>
    obtain ⟨d, rest', rfl, hkey, hbehind⟩ := SameText.exists_of_cons hrest
    simp only [reach, set.has_eq_of_key_eq hkey]
    split
    · exact ih (.cons ⟨hbefore, hrest⟩ hnearer) (hbefore.cons hkey) hbehind
    · exact .cons ⟨hbefore, hrest⟩ hnearer

theorem blind_ends (times : Times) : Blind mode fun cur => set.ends mode cur times := by
  have hstar : Blind mode fun cur => set.reach mode [] cur.before cur.after :=
    fun _ _ h => set.forall₂_reach .nil h.before h.after
  cases times with
  | once => exact set.blind_step
  | optional => exact set.blind_step.append .here
  | star => exact hstar
  | plus => exact set.blind_step.flatMap hstar

end CharSet

namespace Pattern

variable {mode : CaseMode}

/-- **The search goes to the same places in texts that agree.** -/
theorem blind_ends {kind : PatternKind} (p : Pattern kind) : Blind mode (p.ends mode) := by
  induction p with
  | done => exact Blind.here
  | take set times next ih => exact (set.blind_ends times).flatMap ih
  | anchor a next ih => exact Blind.guard (fun _ _ h => h.holds_eq a) ih
  | group body next hbody ih => exact hbody.flatMap ih
  | upTo bound body next hbody ih => exact (hbody.stepsUpTo bound).flatMap ih
  | ahead holds body next hbody ih =>
    refine Blind.guard (g := fun cur => (body.ends mode cur).isEmpty == !holds)
      (fun cur cur' h => ?_) ih
    rw [isEmpty_eq_of_forall₂ (hbody h)]
  | last only ih => exact ih
  | orElse first others h₁ h₂ => exact h₁.append h₂

theorem forall₂_placesFrom {before before' rest rest' : List Char}
    (hbefore : SameText mode before before') (hrest : SameText mode rest rest') :
    List.Forall₂ (Cursor.SameAt mode) (Cursor.placesFrom before rest)
      (Cursor.placesFrom before' rest') := by
  induction rest generalizing before before' rest' with
  | nil =>
    obtain rfl := SameText.nil_iff.1 hrest.symm
    exact .cons ⟨hbefore, hrest⟩ .nil
  | cons c rest ih =>
    obtain ⟨d, rest', rfl, hkey, hbehind⟩ := SameText.exists_of_cons hrest
    exact .cons ⟨hbefore, hrest⟩ (ih (hbefore.cons hkey) hbehind)

variable (p : Pattern .sequence) {text text' : List Char}

/-- Of two texts that agree both match or neither. -/
theorem matchesText_eq (h : SameText mode text text') :
    p.matchesText mode text = p.matchesText mode text' :=
  any_eq_of_forall₂ (forall₂_placesFrom (.rfl []) h) fun _ _ hcur => by
    rw [isEmpty_eq_of_forall₂ (p.blind_ends hcur)]

theorem spansFrom_eq {covered : Nat} {before before' rest rest' : List Char}
    (hbefore : SameText mode before before') (hrest : SameText mode rest rest') :
    p.spansFrom mode covered before rest = p.spansFrom mode covered before' rest' := by
  induction rest generalizing covered before before' rest' with
  | nil => rw [SameText.nil_iff.1 hrest.symm, spansFrom, spansFrom]
  | cons c rest ih =>
    obtain ⟨d, rest', rfl, hkey, hbehind⟩ := SameText.exists_of_cons hrest
    have hnext : ∀ k, p.spansFrom mode k (c :: before) rest
        = p.spansFrom mode k (d :: before') rest' := fun k => ih (hbefore.cons hkey) hbehind
    cases covered with
    | succ k => exact hnext k
    | zero =>
      -- the preferred ends are at the same place, so as wide a span begins here, or none
      have hcur : Cursor.SameAt mode ⟨before, c :: rest⟩ ⟨before', d :: rest'⟩ := ⟨hbefore, hrest⟩
      have hends := p.blind_ends hcur
      simp only [spansFrom]
      generalize p.ends mode ⟨before, c :: rest⟩ = ends at hends
      generalize p.ends mode ⟨before', d :: rest'⟩ = ends' at hends
      cases hends with
      | nil => exact hnext 0
      | cons hstop =>
        dsimp only
        rw [hrest.length_eq, hstop.after.length_eq, hbefore.length_eq]
        split
        · exact hnext 0
        · rw [hnext]

/-- Texts that agree have the same spans. -/
theorem spans_eq (h : SameText mode text text') : p.spans mode text = p.spans mode text' :=
  p.spansFrom_eq (.rfl []) h

end Pattern

namespace QueryPattern

variable (q : QueryPattern) {text text' : String}

theorem constraintsHold_eq (h : SameText q.flags.caseMode text.toList text'.toList) :
    q.constraintsHold text = q.constraintsHold text' := by
  have hmatch : (fun p : Pattern .sequence => p.matchesText q.flags.caseMode text.toList)
      = fun p => p.matchesText q.flags.caseMode text'.toList :=
    funext fun p => p.matchesText_eq h
  rw [constraintsHold, constraintsHold, Constraints.hold, Constraints.hold, hmatch]

/-- **Texts that agree are results both or neither, and have the same spans.** -/
theorem sameResults (h : SameText q.flags.caseMode text.toList text'.toList) :
    q.isMatch text = q.isMatch text' ∧ q.spans text = q.spans text' := by
  constructor
  · rw [isMatch, isMatch, q.constraintsHold_eq h, q.body.matchesText_eq h]
  · rw [spans, spans, q.constraintsHold_eq h, Pattern.spans_eq _ h]

end QueryPattern

/-! ## 2. Requests that agree but for case -/

/-- The two words agree but for case. -/
def SameWord (a b : String) : Prop :=
  SameText .folded a.toList b.toList

/-- The two rules are the same but for the case of their words. -/
structure ProximityRule.SameButCase (rule rule' : ProximityRule) : Prop where
  first : SameWord rule.first rule'.first
  second : SameWord rule.second rule'.second
  maxDistance : rule.maxDistance = rule'.maxDistance

/-- The two sets have the same synonyms but for case. -/
def SynonymSet.SameButCase (set set' : SynonymSet) : Prop :=
  List.Forall₂ SameWord set.synonyms set'.synonyms

/-- The two expansions are the same but for the case of the synonyms. -/
def Expansion.SameButCase (e e' : Expansion) : Prop :=
  List.Forall₂ SynonymSet.SameButCase e.sets e'.sets

/-- The two requests are the same but for the case of their words, in all that is searched for. -/
structure Request.SameButCase (r r' : Request) : Prop where
  text : SameWord r.text r'.text
  required : List.Forall₂ SameWord r.required r'.required
  excluded : List.Forall₂ SameWord r.excluded r'.excluded
  proximity : List.Forall₂ ProximityRule.SameButCase r.proximity r'.proximity
  mode : r.mode = r'.mode
  ignoreCase : r.ignoreCase = r'.ignoreCase
  plurals : r.plurals = r'.plurals
  synonyms : r.synonyms = r'.synonyms
  synonymCap : r.synonymCap = r'.synonymCap

section Symmetry

theorem forall₂_symm {α : Type} {R : α → α → Prop} (hR : ∀ x y, R x y → R y x) {xs ys : List α}
    (h : List.Forall₂ R xs ys) : List.Forall₂ R ys xs :=
  (h.imp hR).flip

theorem SameWord.symm {a b : String} (h : SameWord a b) : SameWord b a :=
  SameText.symm h

theorem ProximityRule.SameButCase.symm {rule rule' : ProximityRule} (h : rule.SameButCase rule') :
    rule'.SameButCase rule :=
  ⟨h.first.symm, h.second.symm, h.maxDistance.symm⟩

theorem SynonymSet.SameButCase.symm {set set' : SynonymSet} (h : set.SameButCase set') :
    set'.SameButCase set :=
  forall₂_symm (fun _ _ => SameWord.symm) h

theorem Expansion.SameButCase.symm {e e' : Expansion} (h : e.SameButCase e') : e'.SameButCase e :=
  forall₂_symm (fun _ _ => SynonymSet.SameButCase.symm) h

theorem Request.SameButCase.symm {r r' : Request} (h : r.SameButCase r') : r'.SameButCase r where
  text := h.text.symm
  required := forall₂_symm (fun _ _ => SameWord.symm) h.required
  excluded := forall₂_symm (fun _ _ => SameWord.symm) h.excluded
  proximity := forall₂_symm (fun _ _ => ProximityRule.SameButCase.symm) h.proximity
  mode := h.mode.symm
  ignoreCase := h.ignoreCase.symm
  plurals := h.plurals.symm
  synonyms := h.synonyms.symm
  synonymCap := h.synonymCap.symm

theorem optionRel_symm {e e' : Option Expansion} (h : Option.Rel Expansion.SameButCase e e') :
    Option.Rel Expansion.SameButCase e' e := by
  cases h with
  | none => exact .none
  | some h => exact .some h.symm

end Symmetry

/-! ## 3. What they find -/

theorem OccursAsWord.congr {mode : CaseMode} {word word' text : List Char}
    (h : SameText mode word word') (hword : OccursAsWord mode word text) :
    OccursAsWord mode word' text := by
  obtain ⟨x, m, y, htext, hm, hedges⟩ := hword
  exact ⟨x, m, y, htext, hm.trans h, hedges⟩

theorem ReadsLike.congr {plurals : Bool} {a b : String} {m : List Char} (h : SameWord a b)
    (hreads : ReadsLike .folded plurals a m) : ReadsLike .folded plurals b m := by
  refine hreads.imp (fun hm => hm.trans h) (And.imp_right fun hm => hm.trans ?_)
  exact SameText.append_iff.2 ⟨a.toList, ['s'], rfl, h, .rfl _⟩

namespace ProximityRule.SameButCase

variable {rule rule' : ProximityRule}

theorem isUsable (h : rule.SameButCase rule') : rule.isUsable = rule'.isUsable := by
  rw [ProximityRule.isUsable, ProximityRule.isUsable, h.first.isBlankText, h.second.isBlankText]

theorem joinedBy {x a g b y : List Char} (h : rule.SameButCase rule')
    (hjoin : rule.JoinedBy .folded x a g b y) : rule'.JoinedBy .folded x a g b y where
  first := hjoin.first.trans h.first.trim
  firstEdges := hjoin.firstEdges
  second := hjoin.second.trans h.second.trim
  secondEdges := hjoin.secondEdges
  gap := by
    rw [bound, ← h.maxDistance]
    exact hjoin.gap

end ProximityRule.SameButCase

/-- A synonym that is searched for has one that agrees with it, or else is the text itself now. -/
theorem Settings.IsAlternative.exists_same {s : Settings} {r r' : Request}
    {e e' : Option Expansion} {alt : String} (h : r.SameButCase r')
    (he : Option.Rel Expansion.SameButCase e e') (halt : s.IsAlternative r e alt) :
    ∃ alt', s.IsAlternative r' e' alt' ∧ SameWord alt alt' := by
  rcases halt with rfl | ⟨hasked, known, rfl, hmem⟩
  · exact ⟨_, Or.inl rfl, h.text.trim⟩
  · obtain ⟨hne, -, set, hset, synonym, hsynonym, rfl⟩ := Expansion.mem_flatten_iff.1 hmem
    obtain ⟨known', rfl, hknown⟩ : ∃ known', e' = some known' ∧ known.SameButCase known' := by
      cases he with
      | some hknown => exact ⟨_, rfl, hknown⟩
    obtain ⟨set', hset', hsynonyms⟩ := exists_mem_of_forall₂ hknown hset
    obtain ⟨synonym', hsynonym', hsame⟩ :=
      exists_mem_of_forall₂ (List.forall₂_take (s.synonymLimit r) hsynonyms) hsynonym
    have hlimit : s.synonymLimit r' = s.synonymLimit r := by
      rw [synonymLimit, synonymLimit, h.synonymCap]
    have hne' : trim synonym' ≠ "" := by
      rwa [trim_ne_empty_iff, ← hsame.isBlankText, ← trim_ne_empty_iff]
    by_cases htext : trim synonym' = trim r'.text
    · exact ⟨_, Or.inl rfl, htext ▸ hsame.trim⟩
    · refine ⟨trim synonym', Or.inr ⟨h.synonyms ▸ hasked, known', rfl, ?_⟩, hsame.trim⟩
      exact Expansion.mem_flatten_iff.2
        ⟨hne', htext, set', hset', synonym', hlimit ▸ hsynonym', rfl⟩

theorem Request.caseMode_of_ignoreCase {r : Request} (h : r.ignoreCase = true) :
    r.flags.caseMode = .folded := by
  rw [flags, Flags.caseMode, h, if_pos rfl]

namespace Request.SameButCase

variable {s : Settings} {r r' : Request} {e e' : Option Expansion}

theorem usableRules_eq_nil (h : r.SameButCase r') (hnone : r.usableRules = []) :
    r'.usableRules = [] := by
  rw [usableRules_eq_nil_iff] at hnone ⊢
  intro rule' hrule'
  obtain ⟨rule, hrule, hsame⟩ := exists_mem_of_forall₂ h.symm.proximity hrule'
  rw [hsame.isUsable, hnone rule hrule]

theorem hasInput (h : r.SameButCase r') : r.hasInput = r'.hasInput := by
  have hrules : r.usableRules = [] ↔ r'.usableRules = [] :=
    ⟨h.usableRules_eq_nil, h.symm.usableRules_eq_nil⟩
  rw [Bool.eq_iff_iff, hasInput_iff, hasInput_iff, h.text.isBlankText, ne_eq, ne_eq, hrules]

/-- A text that has the words of the one request has those of the other. -/
theorem keptBy {text : List Char} (h : r.SameButCase r') (hcase : r.ignoreCase = true)
    (hkept : r.KeptBy text) : r'.KeptBy text := by
  have hmode : r.flags.caseMode = .folded := caseMode_of_ignoreCase hcase
  have hmode' : r'.flags.caseMode = .folded := caseMode_of_ignoreCase (h.ignoreCase ▸ hcase)
  refine ⟨fun t' ht' hblank => ?_, fun t' ht' hblank hoccurs => ?_⟩
  · obtain ⟨t, ht, hsame⟩ := exists_mem_of_forall₂ h.symm.required ht'
    have hword := hkept.required t ht (hsame.isBlankText ▸ hblank)
    rw [hmode] at hword
    rw [hmode']
    exact hword.congr hsame.symm.trim
  · obtain ⟨t, ht, hsame⟩ := exists_mem_of_forall₂ h.symm.excluded ht'
    rw [hmode'] at hoccurs
    refine hkept.excluded t ht (hsame.isBlankText ▸ hblank) ?_
    rw [hmode]
    exact hoccurs.congr hsame.trim

/-- **What the one request searches for is found by the other.** -/
theorem foundIn {text : List Char} (h : r.SameButCase r')
    (he : Option.Rel Expansion.SameButCase e e') (hcase : r.ignoreCase = true)
    (hfound : r.FoundIn (s.synonymsFor r e) text) : r'.FoundIn (s.synonymsFor r' e') text := by
  have hmode : r.flags.caseMode = .folded := caseMode_of_ignoreCase hcase
  have hmode' : r'.flags.caseMode = .folded := caseMode_of_ignoreCase (h.ignoreCase ▸ hcase)
  by_cases hrules : r.usableRules = []
  · obtain ⟨x, m, y, htext, ⟨alt, halt, hreads⟩, hplace⟩ := (exists_textBody_iff hrules).1 hfound
    obtain ⟨alt', halt', hsame⟩ := (Settings.mem_synonymsFor.1 halt).exists_same h he
    rw [hmode, h.plurals] at hreads
    refine (exists_textBody_iff (h.usableRules_eq_nil hrules)).2
      ⟨x, m, y, htext, ⟨alt', Settings.mem_synonymsFor.2 halt', ?_⟩, h.mode ▸ hplace⟩
    rw [hmode']
    exact hreads.congr hsame
  · obtain ⟨x, a, g, b, y, htext, rule, hrule, husable, hjoin⟩ :=
      (exists_body_iff_joins hrules).1 hfound
    obtain ⟨rule', hrule', hsame⟩ := exists_mem_of_forall₂ h.proximity hrule
    rw [hmode] at hjoin
    refine (exists_body_iff_joins (mt h.symm.usableRules_eq_nil hrules)).2
      ⟨x, a, g, b, y, htext, rule', hrule', hsame.isUsable ▸ husable, ?_⟩
    rw [hmode']
    exact hsame.joinedBy hjoin

end Request.SameButCase

/-! ## 4. The result -/

/-- **A search without regard to case is blind to case.**  Two texts that agree but for case are
results both or neither, with the same spans in characters; and with words that agree with its own
but for case it has the same results, unless its machine does not fit then. -/
theorem blind_to_case {s : Settings} {r : Request} {e : Option Expansion} {q : CompiledQuery}
    (hcase : r.ignoreCase = true) (hq : (s.compile r e).result = .ok q) :
    (∀ text text' : String, SameText .folded text.toList text'.toList →
      q.pattern.isMatch text = q.pattern.isMatch text' ∧
        q.pattern.spans text = q.pattern.spans text') ∧
    ∀ r' e', r.SameButCase r' → Option.Rel Expansion.SameButCase e e' →
      (s.compile r' e').IsTooLarge ∨ ∃ q', (s.compile r' e').result = .ok q' ∧
        ∀ text, q'.pattern.isMatch text = q.pattern.isMatch text := by
  constructor
  · intro text text' h
    refine q.pattern.sameResults ?_
    rw [Settings.pattern_of_compile hq]
    exact (Request.caseMode_of_ignoreCase hcase).symm ▸ h
  · intro r' e' h he
    have hcase' : r'.ignoreCase = true := h.ignoreCase ▸ hcase
    have hinput : r'.hasInput = true := h.hasInput ▸ (Settings.compile_eq_ok_iff.1 hq).1
    cases hfits : (r'.pattern (s.synonymsFor r' e')).fits s.sizeLimit with
    | false => exact Or.inl (Settings.isTooLarge_iff.2 ⟨hinput, hfits⟩)
    | true =>
      have hq' := Settings.compile_of_fits hinput hfits
      refine Or.inr ⟨_, hq', fun text => ?_⟩
      rw [Bool.eq_iff_iff, Settings.isMatch_iff hq', Settings.isMatch_iff hq]
      constructor
      · exact fun ⟨hkept, hfound⟩ => ⟨h.symm.keptBy hcase' hkept,
          h.symm.foundIn (optionRel_symm he) hcase' hfound⟩
      · exact fun ⟨hkept, hfound⟩ => ⟨h.keptBy hcase hkept, h.foundIn he hcase hfound⟩

/-- A search for a word or its synonym, with a word that must occur and one that must not. -/
def askRequest : Request where
  text := "ask"
  mode := .wholeWord
  synonyms := true
  required := ["lamp"]
  excluded := [" dark"]

def askSynonyms : Expansion := ⟨[⟨"ask", ["seek", "ASK"]⟩]⟩

/-- The same search in other letters, a long s and a kelvin sign among them.  Its second synonym is
the text itself, which that of the other is but for case. -/
def askedRequest : Request where
  text := "a\u017Fk"
  mode := .wholeWord
  synonyms := true
  required := ["LAMP"]
  excluded := [" Dark"]

def askedSynonyms : Expansion := ⟨[⟨"ask", ["See\u212A", "a\u017Fk"]⟩]⟩

/-- Both find the same, in either case. -/
theorem blind_to_case_kelvin :
    askRequest.ignoreCase = true ∧ askRequest.SameButCase askedRequest ∧
      SameText .folded "Seek a lamp".toList "\u017Fee\u212A A LAMP".toList ∧
      ∃ q, (Settings.compile {} askRequest (some askSynonyms)).result = .ok q ∧
        q.pattern.isMatch "\u017Fee\u212A A LAMP" = true ∧
        q.pattern.spans "\u017Fee\u212A A LAMP" = [⟨0, 4⟩] ∧
        ∃ q', (Settings.compile {} askedRequest (some askedSynonyms)).result = .ok q' ∧
          ∀ text, q'.pattern.isMatch text = q.pattern.isMatch text := by
  have hword : ∀ a b : String, a.toList.map foldChar = b.toList.map foldChar → SameWord a b :=
    fun _ _ h => h
  have hsame : askRequest.SameButCase askedRequest :=
    ⟨hword _ _ (by decide +kernel), .cons (hword _ _ (by decide +kernel)) .nil,
      .cons (hword _ _ (by decide +kernel)) .nil, .nil, rfl, rfl, rfl, rfl, rfl⟩
  have hsynonyms : Option.Rel Expansion.SameButCase (some askSynonyms) (some askedSynonyms) :=
    .some (.cons (.cons (hword _ _ (by decide +kernel))
      (.cons (hword _ _ (by decide +kernel)) .nil)) .nil)
  have htexts : SameText .folded "Seek a lamp".toList "\u017Fee\u212A A LAMP".toList :=
    hword _ _ (by decide +kernel)
  have hq := Settings.compile_of_fits (s := {}) (r := askRequest) (e := some askSynonyms)
    (by decide) (by decide +kernel)
  obtain ⟨htext, hrequest⟩ := blind_to_case rfl hq
  obtain ⟨hmatch, hspans⟩ := htext _ _ htexts
  have hfits : ¬(Settings.compile {} askedRequest (some askedSynonyms)).IsTooLarge :=
    Settings.not_isTooLarge (by decide +kernel)
  exact ⟨rfl, hsame, htexts, _, hq, hmatch.symm.trans (by decide +kernel),
    hspans.symm.trans (by decide +kernel), (hrequest _ _ hsame hsynonyms).resolve_left hfits⟩

end VerseQuery
