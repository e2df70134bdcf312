/-
# Finding a term that was told

A dictionary that is told that two terms stand for each other serves a search for the first one.
What the search does about the second is followed here from the group to the results.

* **Room for it.**  The dictionary names what older groups say first, and stops at the limit.  A limit
  for the terms that it held before is enough, since the term that is asked for counts among them
  and is not answered (`Dictionary.normal_mem_synonyms_addGroup`).
* **What is looked for.**  Not the second term as it was written, but its normal form; or nothing
  new, if the two have one normal form, for then there is no group (`standIn`).
* **What is found.**  A text with the second term in it, as it was written, if what is looked for
  reads like it.  So it does for all terms but those with one of the capitals that folding does not
  know (`sameText_standIn`), and a search for such a term can miss it (`told_term_is_missed`).
-/
import VerseQuery.Proofs.CaseBlind
import VerseQuery.Proofs.Consultation
import VerseQuery.Proofs.Dictionary
import VerseQuery.Proofs.LowerCase

namespace VerseQuery

open Text

/-! ## 1. Room for one more term -/

/-- With room for one more behind what comes first, the next one is kept. -/
theorem mem_take_firstSeen {xs ys : List String} {x : String} {limit : Nat}
    (h : (firstSeen xs).length < limit) : x ∈ (firstSeen (xs ++ x :: ys)).take limit := by
  have hfront : firstSeen (xs ++ [x]) <+: firstSeen (xs ++ x :: ys) := by
    rw [List.append_cons xs x ys]
    exact firstSeen_prefix_append _ _
  have hlength : (firstSeen (xs ++ [x])).length ≤ limit := by
    rw [firstSeen_concat]
    split
    · omega
    · rw [List.length_append, List.length_singleton]
      omega
  exact (List.prefix_take_iff.2 ⟨hfront, hlength⟩).subset (mem_firstSeen_iff.2 (by simp))

namespace Dictionary

variable {d : Dictionary} {a b : String} {limit : Nat}

/-- The terms that a dictionary holds in its groups and under its entries, each of them once. -/
def terms (d : Dictionary) : List String :=
  firstSeen (d.groups.flatten ++ d.entries.entries.flatMap (·.2))

/-- The terms that the groups name next to a term leave room within a limit for all terms. -/
theorem length_grouped_lt {t : String} (hone : 0 < limit) (hlimit : d.terms.length ≤ limit) :
    (firstSeen ((d.groups.filter (·.contains t)).flatten.filter (· != t))).length < limit := by
  by_cases hany : ∃ group ∈ d.groups, t ∈ group
  · -- the term is one of those that the dictionary holds, and it does not count here
    obtain ⟨group, hgroup, ht⟩ := hany
    have hnodup : (t :: firstSeen ((d.groups.filter (·.contains t)).flatten.filter
        (· != t))).Nodup :=
      List.nodup_cons.2 ⟨by simp [mem_firstSeen_iff], nodup_firstSeen _⟩
    have hheld : t :: firstSeen ((d.groups.filter (·.contains t)).flatten.filter (· != t))
        ⊆ d.terms := by
      intro x hx
      refine mem_firstSeen_iff.2 (List.mem_append_left _ (List.mem_flatten.2 ?_))
      rcases List.mem_cons.1 hx with rfl | hx
      · exact ⟨group, hgroup, ht⟩
      · obtain ⟨other, hother, hmem⟩ :=
          List.mem_flatten.1 (List.mem_filter.1 (mem_firstSeen_iff.1 hx)).1
        exact ⟨other, (List.mem_filter.1 hother).1, hmem⟩
    exact (hnodup.length_le_of_subset hheld).trans hlimit
  · have hnone : d.groups.filter (·.contains t) = [] :=
      List.filter_eq_nil_iff.2 fun group hgroup ht =>
        hany ⟨group, hgroup, List.contains_iff_mem.1 ht⟩
    rw [hnone]
    exact hone

/-- Two terms that are not one make up a group. -/
theorem groups_addGroup_pair (ha : isBlankText a = false) (hb : isBlankText b = false)
    (hne : normal a ≠ normal b) :
    (d.addGroup [a, b]).groups = d.groups ++ [[normal a, normal b]] := by
  have hgroup : newTerms [] [a, b] = [normal a, normal b] := by
    simp [newTerms, normal_ne_empty_iff.2 ha, normal_ne_empty_iff.2 hb, hne.symm]
  rw [addGroup, hgroup]
  rfl

/-- **The limit leaves room for the term that was told last**, if it does for all terms from before. -/
theorem normal_mem_synonyms_addGroup (ha : isBlankText a = false) (hb : isBlankText b = false)
    (hne : normal a ≠ normal b) (hone : 0 < limit) (hlimit : d.terms.length ≤ limit) :
    normal b ∈ (d.addGroup [a, b]).synonyms a limit := by
  have hrelated : (d.addGroup [a, b]).related (normal a)
      = (d.groups.filter (·.contains (normal a))).flatten ++
        (normal a :: normal b :: (d.entries.get? (normal a)).getD []) := by
    simp [related, groups_addGroup_pair ha hb hne, entries_addGroup]
  rw [synonyms_eq, hrelated, List.filter_append, List.filter_cons_of_neg (by simp),
    List.filter_cons_of_pos (by simpa using hne.symm)]
  exact mem_take_firstSeen (length_grouped_lt hone hlimit)

end Dictionary

/-! ## 2. What is looked for -/

/-- A text without a blank is one word. -/
theorem words_eq_singleton {s : String} (hne : s ≠ "") (h : ∀ c ∈ s.toList, isBlank c = false) :
    words s = [s] := by
  have hpush : ∀ cs : List Char, (∀ c ∈ cs, isBlank c = false) →
      cs.foldr WordCut.push ⟨[], []⟩ = ⟨cs, []⟩ := by
    intro cs
    induction cs with
    | nil => exact fun _ => rfl
    | cons c rest ih =>
      intro hcs
      rw [List.forall_mem_cons] at hcs
      rw [List.foldr_cons, ih hcs.2, WordCut.push, hcs.1]
      rfl
  have hopen : s.toList.isEmpty = false := by simpa using hne
  rw [words, hpush _ h, WordCut.all, hopen]
  simp

/-- Nor is there anything to trim then. -/
theorem trim_eq_self {s : String} (h : ∀ c ∈ s.toList, isBlank c = false) : trim s = s := by
  have hdrop : ∀ cs : List Char, (∀ c ∈ cs, isBlank c = false) → cs.dropWhile isBlank = cs := by
    intro cs hcs
    exact List.dropWhile_eq_self_iff.2 fun hlt => by simp [hcs]
  rw [trim, trimChars, hdrop _ h, hdrop _ fun c hc => h c (List.mem_reverse.1 hc),
    List.reverse_reverse, String.ofList_toList]

/-- A search in any case for one word, anywhere in a text, or for what stands for it. -/
structure Request.SeeksSynonyms (r : Request) : Prop where
  nonempty : r.text ≠ ""
  noBlank : ∀ c ∈ r.text.toList, isBlank c = false
  mode : r.mode = .contains
  ignoreCase : r.ignoreCase = true
  synonyms : r.synonyms = true
  noRule : ∀ rule ∈ r.proximity, rule.isUsable = false

theorem Request.SeeksSynonyms.isBlankText_text {r : Request} (h : r.SeeksSynonyms) :
    isBlankText r.text = false := by
  obtain ⟨c, hc⟩ := List.exists_mem_of_ne_nil r.text.toList (by simpa using h.nonempty)
  exact isBlankText_eq_false_iff.2 ⟨c, hc, h.noBlank c hc⟩

/-- What a search for the first term looks for when the second is told to stand for it. -/
def standIn (a b : String) : String :=
  if normal a = normal b then a else normal b

/-- What is looked for reads like the second term, if none of the capitals is in it that folding does
not know, nor in the first term where that is looked for. -/
theorem sameText_standIn {a b : String} (hword : ∀ c ∈ a.toList, isBlank c = false)
    (ha : normal a = normal b → ∀ c ∈ a.toList, isUnfoldedCapital c = false)
    (hb : ∀ c ∈ b.toList, isUnfoldedCapital c = false) :
    SameText .folded (standIn a b).toList (trim b).toList := by
  have hnormal := sameText_normal hb
  rw [standIn]
  split
  · rename_i hsame
    have hfirst := sameText_normal (ha hsame)
    rw [trim_eq_self hword] at hfirst
    rw [← hsame] at hnormal
    exact hfirst.symm.trans hnormal
  · exact hnormal

section Search

variable {d : Dictionary} {s : Settings} {r : Request} {b : String}

/-- The dictionary is asked for the one word of the text, and the answer is compiled. -/
theorem Dictionary.result_compile {answer : List String} (hr : r.SeeksSynonyms)
    (h : d.synonyms r.text (s.synonymLimit r) = answer) :
    (d.service.compile s r).outcome.result =
      (s.compile r (some ⟨[⟨r.text, answer⟩]⟩)).result := by
  have hanswers : d.service.Answers (s.synonymLimit r) [] (words r.text)
      [⟨r.text, answer⟩] := by
    rw [words_eq_singleton hr.nonempty hr.noBlank, ← h]
    exact .cons rfl .nil
  obtain ⟨e, hresolved, hsame⟩ := hanswers.exists_resolved
  rw [Service.outcome_compile_of_ok hresolved, Settings.compile_congr hsame]

/-- **What stands in for the second term is searched for**, next to the text or as the text. -/
theorem isAlternative_standIn (hr : r.SeeksSynonyms) (hb : isBlankText b = false)
    (hone : 0 < s.synonymLimit r) (hlimit : d.terms.length ≤ s.synonymLimit r) :
    s.IsAlternative r
      (some ⟨[⟨r.text, (d.addGroup [r.text, b]).synonyms r.text (s.synonymLimit r)⟩]⟩)
      (trim (standIn r.text b)) := by
  by_cases hsame : normal r.text = normal b
  · rw [standIn, if_pos hsame]
    exact Or.inl rfl
  · rw [standIn, if_neg hsame]
    by_cases htext : trim (normal b) = trim r.text
    · exact Or.inl htext
    · have hblank : trim (normal b) ≠ "" :=
        trim_ne_empty_iff.2 ((isBlankText_normal b).trans hb)
      have hkept : normal b ∈ ((d.addGroup [r.text, b]).synonyms r.text
          (s.synonymLimit r)).take (s.synonymLimit r) := by
        rw [← Dictionary.synonyms_eq_take _ _ (Nat.le_refl _)]
        exact Dictionary.normal_mem_synonyms_addGroup hr.isBlankText_text hb hsame hone hlimit
      refine Or.inr ⟨hr.synonyms, _, rfl, Expansion.mem_flatten_iff.2
        ⟨hblank, htext, _, List.mem_cons_self, ?_⟩⟩
      dsimp only
      exact ⟨normal b, hkept, rfl⟩

/-- What reads like one of the things that are searched for is found, wherever it stands. -/
theorem foundIn_of_isAlternative {e : Option Expansion} {alt : String} {text : List Char}
    (hr : r.SeeksSynonyms) (halt : s.IsAlternative r e alt)
    (hsame : SameText .folded alt.toList (trim b).toList) (hin : b.toList <:+: text) :
    r.FoundIn (s.synonymsFor r e) text := by
  obtain ⟨x, y, htext⟩ := (trim_isInfix b).trans hin
  have hreads : ReadsLike r.flags.caseMode r.plurals alt (trim b).toList := by
    rw [Request.caseMode_of_ignoreCase hr.ignoreCase]
    exact Or.inl hsame.symm
  have hplace : r.mode.Allows x (trim b).toList y := by
    rw [hr.mode]
    trivial
  exact (Request.exists_textBody_iff (Request.usableRules_eq_nil_iff.2 hr.noRule)).2
    ⟨x, (trim b).toList, y, htext.symm, ⟨alt, Settings.mem_synonymsFor.2 halt, hreads⟩, hplace⟩

end Search

/-! ## 3. The result -/

/-- **A term that was told to stand for another is found as it was written.**  After a dictionary,
whatever it holds, was told that the text of the search and the other term stand for each other, the
search gives a query that accepts every text with the other term in it, or the query gets too large
for the settings.  The limit need not allow for more terms than the dictionary held before.  The
term must read like what stands in for it, which it does but for the few capitals that folding leaves
where they are. -/
theorem told_term_is_found {d : Dictionary} {s : Settings} {r : Request} {b : String}
    (hr : r.SeeksSynonyms) (hb : isBlankText b = false) (hone : 0 < s.synonymLimit r)
    (hlimit : d.terms.length ≤ s.synonymLimit r)
    (hcase : (∀ c ∈ b.toList, isUnfoldedCapital c = false) ∧
        (normal r.text = normal b → ∀ c ∈ r.text.toList, isUnfoldedCapital c = false) ∨
      SameText .folded (standIn r.text b).toList (trim b).toList) :
    ((d.addGroup [r.text, b]).service.compile s r).outcome.IsTooLarge ∨
      ∃ q, ((d.addGroup [r.text, b]).service.compile s r).outcome.result = .ok q ∧
        ∀ text, r.KeptBy text.toList → b.toList <:+: text.toList →
          q.pattern.isMatch text = true := by
  have halt := isAlternative_standIn (b := b) hr hb hone hlimit
  have hreads : SameText .folded (trim (standIn r.text b)).toList (trim b).toList := by
    have hstand := hcase.elim (fun h => sameText_standIn hr.noBlank h.2 h.1) id
    rw [← trim_trim b]
    exact hstand.trim
  have hinput : r.hasInput = true := Request.hasInput_iff.2 (Or.inl hr.isBlankText_text)
  rw [Outcome.IsTooLarge, Dictionary.result_compile hr rfl]
  generalize some _ = e at halt ⊢
  cases hfits : (r.pattern (s.synonymsFor r e)).fits s.sizeLimit with
  | false => exact Or.inl (Settings.isTooLarge_iff.2 ⟨hinput, hfits⟩)
  | true =>
    have hq := Settings.compile_of_fits hinput hfits
    exact Or.inr ⟨_, hq, fun text hkept hin => (Settings.isMatch_iff hq).2
      ⟨hkept, foundIn_of_isAlternative hr halt hreads hin⟩⟩

/-- A search for a word, or for one of two that stand for it. -/
def pairRequest (word : String) : Request :=
  (Request.ofText word .contains).withSynonyms 2

theorem seeksSynonyms_pairRequest {word : String} (hne : word ≠ "")
    (h : word.toList.any isBlank = false) : (pairRequest word).SeeksSynonyms where
  nonempty := hne
  noBlank := fun c hc => eq_false_of_ne_true (List.any_eq_false.1 h c hc)
  mode := rfl
  ignoreCase := rfl
  synonyms := rfl
  noRule := fun _ hrule => absurd hrule List.not_mem_nil

theorem keptBy_pairRequest (word : String) (text : List Char) : (pairRequest word).KeptBy text :=
  ⟨fun _ ht => absurd ht List.not_mem_nil, fun _ ht => absurd ht List.not_mem_nil⟩

/-- A dictionary with a term for light. -/
def lampDictionary : Dictionary :=
  ({} : Dictionary).addGroup ["Lamp", "light"]

/-- A limit of two is enough for one more term, in capitals and with a sigma at its end. -/
theorem told_term_is_found_phos :
    (pairRequest "light").SeeksSynonyms ∧ isBlankText " ΦΩΣ" = false ∧
      0 < Settings.synonymLimit {} (pairRequest "light") ∧
      lampDictionary.terms.length ≤ Settings.synonymLimit {} (pairRequest "light") ∧
      (∀ c ∈ " ΦΩΣ".toList, isUnfoldedCapital c = false) ∧ normal "light" ≠ normal " ΦΩΣ" ∧
      ∃ q, ((lampDictionary.addGroup ["light", " ΦΩΣ"]).service.compile {}
          (pairRequest "light")).outcome.result = .ok q ∧
        q.pattern.source = "(?:light|lamp|φως)" ∧ q.pattern.isMatch "τὸ ΦΩΣ" = true := by
  have hseeks : (pairRequest "light").SeeksSynonyms :=
    seeksSynonyms_pairRequest (by decide) (by decide)
  have hblank : isBlankText " ΦΩΣ" = false := by decide
  have hone : 0 < Settings.synonymLimit {} (pairRequest "light") := by decide
  have hlimit : lampDictionary.terms.length ≤ Settings.synonymLimit {} (pairRequest "light") := by
    decide +kernel
  have hcase : ∀ c ∈ " ΦΩΣ".toList, isUnfoldedCapital c = false := by
    have hnone : " ΦΩΣ".toList.any isUnfoldedCapital = false := by decide
    exact fun c hc => eq_false_of_ne_true (List.any_eq_false.1 hnone c hc)
  have hne : normal "light" ≠ normal " ΦΩΣ" := by decide +kernel
  have hanswer : (lampDictionary.addGroup ["light", " ΦΩΣ"]).synonyms (pairRequest "light").text
      (Settings.synonymLimit {} (pairRequest "light")) = ["lamp", "φως"] := by
    decide +kernel
  have hok := (Dictionary.result_compile hseeks hanswer).trans
    (Settings.compile_of_fits (by decide) (by decide +kernel))
  have hfinds := told_term_is_found (s := {}) hseeks hblank hone hlimit
    (Or.inl ⟨hcase, fun hsame => absurd hsame hne⟩)
  rw [show (pairRequest "light").text = "light" from rfl, Outcome.IsTooLarge, hok] at hfinds
  rcases hfinds with ⟨source, limit, hlarge⟩ | ⟨q, hq, hfound⟩
  · cases hlarge
  · rw [Except.ok.injEq] at hq
    refine ⟨hseeks, hblank, hone, hlimit, hcase, hne, q, hq ▸ hok, ?_, ?_⟩
    · rw [← hq]
      decide +kernel
    · exact hfound _ (keptBy_pairRequest _ _) ⟨"τὸ".toList, [], by decide +kernel⟩

/-- **A term with one of those capitals can be missed**: its lower-case form has one more character,
which the text does not have.  And a query that is too large is none. -/
theorem told_term_is_missed :
    (pairRequest "city").SeeksSynonyms ∧
      ({} : Dictionary).terms.length ≤ Settings.synonymLimit {} (pairRequest "city") ∧
      (∃ q, ((({} : Dictionary).addGroup ["city", "İzmir"]).service.compile {}
        (pairRequest "city")).outcome.result = .ok q ∧ q.pattern.isMatch "İzmir" = false) ∧
      ((({} : Dictionary).addGroup ["city", "İzmir"]).service.compile { sizeLimit := 0 }
        (pairRequest "city")).outcome.IsTooLarge := by
  have hseeks : (pairRequest "city").SeeksSynonyms :=
    seeksSynonyms_pairRequest (by decide) (by decide)
  have hanswer : ∀ s : Settings, (({} : Dictionary).addGroup ["city", "İzmir"]).synonyms
      (pairRequest "city").text (s.synonymLimit (pairRequest "city")) = ["i\u0307zmir"] := by
    intro s
    have hlimit : s.synonymLimit (pairRequest "city") = 2 := rfl
    rw [hlimit]
    decide +kernel
  refine ⟨hseeks, by decide, ?_, ?_⟩
  · have hok := (Dictionary.result_compile hseeks (hanswer {})).trans
      (Settings.compile_of_fits (by decide) (by decide +kernel))
    exact ⟨_, hok, by decide +kernel⟩
  · rw [Outcome.IsTooLarge, Dictionary.result_compile hseeks (hanswer { sizeLimit := 0 })]
    exact Settings.isTooLarge_iff.2 ⟨by decide, by decide +kernel⟩

end VerseQuery
