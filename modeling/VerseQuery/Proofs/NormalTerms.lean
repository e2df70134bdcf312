/-
# Terms in normal form

A dictionary brings what it is told into normal form once, when it is told, and never looks at it
again.  That is enough: a normal form is its own normal form (`normal_normal`), so whatever is kept
is found again by what it is kept as.

* **One character.**  No lower-case form has another one.  The two capitals whose form depends on
  more than the table, the sigma and the dotted I, are nowhere in one either (`lowerTable_settles`).
* **The dictionary.**  Groups and lists of targets hold distinct terms in normal form, whatever the
  dictionary is told, and a group has two of them or more (`Dictionary.Told.isNormal`).
* **What it answers.**  Never the term that was asked for, in whatever case and with whatever blanks
  around it (`Dictionary.IsNormal.not_asked_of_mem_synonyms`).
* **What it was told before.**  To be told it again changes no answer, although a group is then kept
  twice, and stands in front of the entries the second time (`Dictionary.Told.synonyms_add_of_mem`).
-/
import VerseQuery.Proofs.Dictionary
import VerseQuery.Proofs.LowerCase

namespace VerseQuery

open Text

/-! ## 1. One character -/

namespace Text

/-- The character is its own lower-case form, wherever it stands. -/
def IsLower (c : Char) : Prop :=
  ∀ before after, lowerChar before c after = [c]

theorem isLower_of_mapChar {c : Char} (hsigma : c ≠ 'Σ') (hdotted : c ≠ 'İ')
    (h : CaseRun.mapChar lowerTable c = c) : IsLower c := by
  intro before after
  rw [lowerChar, if_neg hsigma, if_neg hdotted, h]

end Text

/-- **What the table leads to is led nowhere**, and is neither of the two capitals that are not in
the table. -/
theorem lowerTable_settles : (lowerTable.all fun block => block.entries.all fun run =>
    (offsets run).all fun i => Nat.beq (codeAt (run.image + i) lowerTable) (run.image + i) &&
      (!Nat.beq (run.image + i) 0x3A3 && !Nat.beq (run.image + i) 0x130)) = true := by
  decide +kernel

theorem isLower_mapChar_lowerTable {c : Char} (hsigma : c ≠ 'Σ') (hdotted : c ≠ 'İ') :
    IsLower (CaseRun.mapChar lowerTable c) := by
  rcases mapChar_lowerTable_cases c with hc | ⟨block, hblock, run, hrun, hmoves, hvalue⟩
  · rw [hc]
    exact isLower_of_mapChar hsigma hdotted hc
  · have hcheck := List.all_eq_true.1 (List.all_eq_true.1 (List.all_eq_true.1 lowerTable_settles
      block hblock) run hrun) _ (mem_offsets hmoves)
    rw [← hvalue, Bool.and_eq_true, Bool.and_eq_true, Nat.beq_eq] at hcheck
    obtain ⟨hstays, hnotSigma, hnotDotted⟩ := hcheck
    refine isLower_of_mapChar ?_ ?_ ?_
    · intro h
      rw [h] at hnotSigma
      exact absurd hnotSigma (by decide)
    · intro h
      rw [h] at hnotDotted
      exact absurd hnotDotted (by decide)
    · rw [mapChar_eq_ofNat, hstays, Char.ofNat_toNat]

/-- **A lower-case form has no other one**, wherever its characters come to stand. -/
theorem isLower_of_mem_lowerChar {before after : List Char} {c d : Char}
    (hd : d ∈ lowerChar before c after) : IsLower d := by
  have htable : ∀ e : Char, e ≠ 'Σ' ∧ e ≠ 'İ' ∧ CaseRun.mapChar lowerTable e = e → IsLower e :=
    fun e h => isLower_of_mapChar h.1 h.2.1 h.2.2
  rw [lowerChar] at hd
  split at hd
  · split at hd
    · obtain rfl := List.mem_singleton.1 hd
      exact htable _ (by decide +kernel)
    · obtain rfl := List.mem_singleton.1 hd
      exact htable _ (by decide +kernel)
  · rename_i hsigma
    split at hd
    · rcases List.mem_pair.1 hd with rfl | rfl
      · exact htable _ (by decide +kernel)
      · exact htable _ (by decide +kernel)
    · rename_i hdotted
      obtain rfl := List.mem_singleton.1 hd
      exact isLower_mapChar_lowerTable hsigma hdotted

/-! ## 2. A text -/

/-- Each character of the lower-case form of a text comes from one of the text. -/
theorem exists_of_mem_lowerAfter {before cs : List Char} {d : Char}
    (h : d ∈ lowerAfter before cs) : ∃ c ∈ cs, ∃ b a, d ∈ lowerChar b c a := by
  induction cs generalizing before with
  | nil => exact absurd h List.not_mem_nil
  | cons c rest ih =>
    rw [lowerAfter, List.mem_append] at h
    rcases h with h | h
    · exact ⟨c, List.mem_cons_self, before, rest, h⟩
    · obtain ⟨e, he, hd⟩ := ih h
      exact ⟨e, List.mem_cons_of_mem _ he, hd⟩

theorem lowerAfter_eq_self {before cs : List Char} (h : ∀ c ∈ cs, IsLower c) :
    lowerAfter before cs = cs := by
  induction cs generalizing before with
  | nil => rfl
  | cons c rest ih =>
    rw [List.forall_mem_cons] at h
    rw [lowerAfter, h.1, ih h.2, List.singleton_append]

theorem lower_lower (s : String) : lower (lower s) = lower s := by
  have hlower : ∀ d ∈ lowerAfter [] s.toList, IsLower d := by
    intro d hd
    obtain ⟨c, -, b, a, hmem⟩ := exists_of_mem_lowerAfter hd
    exact isLower_of_mem_lowerChar hmem
  rw [lower, lower, String.toList_ofList, lowerAfter_eq_self hlower]

/-- The first character of a lower-case form comes from the first one of the text. -/
theorem head?_lowerAfter {before cs : List Char} {d : Char} (h : d ∈ (lowerAfter before cs).head?) :
    ∃ c ∈ cs.head?, ∃ b a, d ∈ lowerChar b c a := by
  cases cs with
  | nil => exact absurd h (by simp [lowerAfter])
  | cons c rest =>
    refine ⟨c, rfl, before, rest, ?_⟩
    rw [lowerAfter, List.head?_append_of_ne_nil _ (lowerChar_ne_nil before c rest)] at h
    exact List.mem_of_mem_head? h

/-- And the last one from the last. -/
theorem getLast?_lowerAfter {before cs : List Char} {d : Char}
    (h : d ∈ (lowerAfter before cs).getLast?) : ∃ c ∈ cs.getLast?, ∃ b a, d ∈ lowerChar b c a := by
  induction cs generalizing before with
  | nil => exact absurd h (by simp [lowerAfter])
  | cons c rest ih =>
    cases rest with
    | nil =>
      refine ⟨c, rfl, before, [], ?_⟩
      rw [lowerAfter, lowerAfter, List.append_nil] at h
      exact List.mem_of_mem_getLast? h
    | cons c' rest =>
      have hne : lowerAfter (c :: before) (c' :: rest) ≠ [] := by
        rw [lowerAfter]
        exact List.append_ne_nil_of_left_ne_nil (lowerChar_ne_nil _ _ _) _
      rw [lowerAfter, List.getLast?_append_of_ne_nil _ hne] at h
      rw [List.getLast?_cons_cons]
      exact ih h

/-- A text has nothing to trim just if it neither begins nor ends with a blank. -/
theorem trimChars_eq_self_iff {cs : List Char} : trimChars cs = cs ↔
    (∀ c ∈ cs.head?, isBlank c = false) ∧ ∀ c ∈ cs.getLast?, isBlank c = false := by
  have htrim : trimChars cs = (cs.dropWhile isBlank).rdropWhile isBlank := rfl
  rw [htrim]
  constructor
  · intro h
    have hfront : cs.dropWhile isBlank = cs := by
      refine (List.dropWhile_suffix isBlank).eq_of_length_le ?_
      calc cs.length = ((cs.dropWhile isBlank).rdropWhile isBlank).length := by rw [h]
        _ ≤ (cs.dropWhile isBlank).length := (List.rdropWhile_prefix _ _).length_le
    rw [hfront, List.rdropWhile_eq_self_iff] at h
    rw [List.dropWhile_eq_self_iff] at hfront
    constructor
    · intro c hc
      obtain ⟨rest, rfl⟩ := List.head?_eq_some_iff.1 hc
      simpa using hfront
    · intro c hc
      obtain ⟨hne, rfl⟩ := List.mem_getLast?_eq_getLast hc
      simpa using h hne
  · rintro ⟨hhead, hlast⟩
    have hfront : cs.dropWhile isBlank = cs := by
      refine List.dropWhile_eq_self_iff.2 fun hlt => ?_
      simpa using hhead cs[0] (List.head?_eq_getElem? .. ▸ List.getElem?_eq_getElem hlt)
    rw [hfront, List.rdropWhile_eq_self_iff]
    intro hne
    simpa using hlast _ (List.getLast?_eq_some_getLast hne)

/-- **A normal form is its own normal form.** -/
theorem normal_normal (s : String) : normal (normal s) = normal s := by
  have htrim : trim (lower (trim s)) = lower (trim s) := by
    have hends := trimChars_eq_self_iff.1 (trimChars_trimChars s.toList)
    rw [trim, ← String.toList_inj, String.toList_ofList, trimChars_eq_self_iff, lower,
      String.toList_ofList]
    constructor
    · intro d hd
      obtain ⟨c, hc, b, a, hmem⟩ := head?_lowerAfter hd
      rw [trim, String.toList_ofList] at hc
      exact isBlank_of_mem_lowerChar (hends.1 c hc) hmem
    · intro d hd
      obtain ⟨c, hc, b, a, hmem⟩ := getLast?_lowerAfter hd
      rw [trim, String.toList_ofList] at hc
      exact isBlank_of_mem_lowerChar (hends.2 c hc) hmem
  rw [normal, normal, htrim, lower_lower]

/-! ## 3. What a dictionary keeps -/

/-- The terms are kept as a dictionary keeps them: each once, in normal form, and none blank. -/
structure AreKept (terms : List String) : Prop where
  nodup : terms.Nodup
  normal : ∀ t ∈ terms, Text.normal t = t
  notBlank : ∀ t ∈ terms, isBlankText t = false

namespace Dictionary

/-- All that is in the dictionary is in normal form. -/
structure IsNormal (d : Dictionary) : Prop where
  groups : ∀ group ∈ d.groups, 2 ≤ group.length ∧ AreKept group
  keys : ∀ e ∈ d.entries.entries, normal e.1 = e.1
  targets : ∀ e ∈ d.entries.entries, AreKept e.2

end Dictionary

namespace AreKept

variable {known : List String}

theorem nil : AreKept [] where
  nodup := List.nodup_nil
  normal := fun _ h => absurd h List.not_mem_nil
  notBlank := fun _ h => absurd h List.not_mem_nil

/-- One more term is kept like the others. -/
theorem concat (h : AreKept known) {term : String} (hne : Text.normal term ≠ "")
    (hnew : Text.normal term ∉ known) : AreKept (known ++ [Text.normal term]) where
  nodup := by
    refine List.nodup_append.2 ⟨h.nodup, by simp, ?_⟩
    intro t ht u hu htu
    obtain rfl := List.mem_singleton.1 hu
    exact hnew (htu ▸ ht)
  normal := by
    intro t ht
    rcases List.mem_append.1 ht with ht | ht
    · exact h.normal t ht
    · obtain rfl := List.mem_singleton.1 ht
      exact normal_normal term
  notBlank := by
    intro t ht
    rcases List.mem_append.1 ht with ht | ht
    · exact h.notBlank t ht
    · obtain rfl := List.mem_singleton.1 ht
      rw [isBlankText_normal]
      exact normal_ne_empty_iff.1 hne

theorem newTerms (h : AreKept known) (terms : List String) :
    AreKept (Dictionary.newTerms known terms) := by
  induction terms generalizing known with
  | nil => exact h
  | cons term rest ih =>
    rw [Dictionary.newTerms_cons]
    split
    · exact ih h
    · rename_i hnew
      rw [Bool.or_eq_true, not_or, beq_iff_eq, List.contains_iff_mem] at hnew
      exact ih (h.concat hnew.1 hnew.2)

end AreKept

namespace Dictionary

variable {history : List Addition} {d : Dictionary}

theorem isNormal_empty : IsNormal {} where
  groups := fun _ h => absurd h List.not_mem_nil
  keys := fun _ h => absurd h List.not_mem_nil
  targets := fun _ h => absurd h List.not_mem_nil

namespace IsNormal

theorem addGroup (h : d.IsNormal) (terms : List String) : (d.addGroup terms).IsNormal where
  groups := by
    intro group hgroup
    rcases mem_groups_addGroup.1 hgroup with hgroup | ⟨htwo, rfl⟩
    · exact h.groups group hgroup
    · exact ⟨htwo, AreKept.nil.newTerms terms⟩
  keys := by
    rw [entries_addGroup]
    exact h.keys
  targets := by
    rw [entries_addGroup]
    exact h.targets

/-- What is kept for a term is kept as it should be, also if it is nothing. -/
theorem areKept_get? (h : d.IsNormal) (key : String) : AreKept ((d.entries.get? key).getD []) := by
  cases hkey : d.entries.get? key with
  | none => exact .nil
  | some targets => exact h.targets _ (KeyTable.mem_of_get?_eq_some hkey)

theorem addEntry (h : d.IsNormal) (source : String) (targets : List String) :
    (d.addEntry source targets).IsNormal where
  groups := h.groups
  keys := by
    intro e he
    rcases KeyTable.eq_or_mem_of_mem_insert he with rfl | he
    · exact normal_normal source
    · exact h.keys e he
  targets := by
    intro e he
    rcases KeyTable.eq_or_mem_of_mem_insert he with rfl | he
    · exact (h.areKept_get? _).newTerms targets
    · exact h.targets e he

theorem add (h : d.IsNormal) : ∀ a : Addition, (d.add a).IsNormal
  | .group terms => h.addGroup terms
  | .entry source targets => h.addEntry source targets

theorem foldl (h : d.IsNormal) (additions : List Addition) :
    (additions.foldl Dictionary.add d).IsNormal := by
  induction additions generalizing d with
  | nil => exact h
  | cons a rest ih => exact ih (h.add a)

end IsNormal

/-- **Whatever a dictionary is told, it holds normal forms only.** -/
theorem Told.isNormal (h : Told history d) : d.IsNormal := by
  induction h with
  | empty => exact isNormal_empty
  | text htext =>
    rw [eq_of_ofText? htext]
    exact isNormal_empty.foldl _
  | add _ a ih => exact ih.add a

/-! ## 4. What it answers -/

theorem length_synonyms_le (d : Dictionary) (t : String) (n : Nat) :
    (d.synonyms t n).length ≤ n := by
  rw [synonyms_eq]
  exact List.length_take_le ..

theorem mem_related_of_mem_synonyms {t r : String} {n : Nat} (h : r ∈ d.synonyms t n) :
    r ∈ d.related (normal t) ∧ r ≠ normal t := by
  rw [synonyms_eq] at h
  have hmem := List.mem_filter.1 (mem_firstSeen_iff.1 (List.mem_of_mem_take h))
  exact ⟨hmem.1, bne_iff_ne.1 hmem.2⟩

/-- What stands next to a term is in normal form, as all is. -/
theorem IsNormal.normal_of_mem_related (h : d.IsNormal) {s r : String} (hr : r ∈ d.related s) :
    normal r = r := by
  rcases mem_related.1 hr with ⟨group, hgroup, -, hmem⟩ | hmem
  · exact (h.groups group hgroup).2.normal r hmem
  · exact (h.areKept_get? s).normal r hmem

/-- **The term that is asked for is never answered**, nor one that differs from it only in case and
in the blanks around it. -/
theorem IsNormal.not_asked_of_mem_synonyms (h : d.IsNormal) {t r : String} {n : Nat}
    (hr : r ∈ d.synonyms t n) : r ≠ t ∧ normal r ≠ normal t := by
  obtain ⟨hrelated, hne⟩ := mem_related_of_mem_synonyms hr
  have hnormal : normal r = r := h.normal_of_mem_related hrelated
  constructor
  · rintro rfl
    exact hne hnormal.symm
  · rwa [hnormal]

/-! ## 5. What it was told before -/

/-- A group that is kept already adds nothing to any answer when it is kept once more. -/
theorem synonyms_append_group {group : List String} (hgroup : group ∈ d.groups) (t : String)
    (n : Nat) : synonyms { d with groups := d.groups ++ [group] } t n = d.synonyms t n := by
  have hrelated : related { d with groups := d.groups ++ [group] } (normal t)
      = (d.groups.filter (·.contains (normal t))).flatten ++
        (if normal t ∈ group then group else []) ++ (d.entries.get? (normal t)).getD [] := by
    by_cases hasked : normal t ∈ group
    · simp [related, hasked]
    · simp [related, hasked]
  have hcopies : (if normal t ∈ group then group else [])
      ⊆ (d.groups.filter (·.contains (normal t))).flatten := by
    intro r hr
    split at hr
    · rename_i hasked
      have hmem : group ∈ d.groups.filter (·.contains (normal t)) :=
        List.mem_filter.2 ⟨hgroup, List.contains_iff_mem.2 hasked⟩
      exact List.mem_flatten.2 ⟨group, hmem, hr⟩
    · exact absurd hr List.not_mem_nil
  rw [synonyms_eq, synonyms_eq, hrelated, related, List.filter_append, List.filter_append,
    List.filter_append, firstSeen_append_of_subset (List.filter_subset _ hcopies)]

/-- Targets that are known already are not kept once more. -/
theorem newTerms_eq_self {known terms : List String}
    (h : ∀ x ∈ terms, normal x ≠ "" → normal x ∈ known) : newTerms known terms = known := by
  induction terms with
  | nil => rfl
  | cons x rest ih =>
    rw [List.forall_mem_cons] at h
    rw [newTerms_cons, if_pos, ih h.2]
    by_cases hne : normal x = ""
    · simp [hne]
    · simp [h.1 hne]

/-- An entry that adds no target changes no answer, though there may be a new key for it. -/
theorem synonyms_addEntry_of_known {source : String} {targets : List String}
    (h : ∀ x ∈ targets, normal x ≠ "" → normal x ∈ (d.entries.get? (normal source)).getD [])
    (t : String) (n : Nat) : (d.addEntry source targets).synonyms t n = d.synonyms t n := by
  by_cases hsource : normal source = normal t
  · have hrelated : (d.addEntry source targets).related (normal t) = d.related (normal t) := by
      rw [related, get?_entries_addEntry, if_pos hsource, newTerms_eq_self h, hsource]
      rfl
    rw [synonyms, synonyms, hrelated]
  · exact d.synonyms_addEntry targets n (Ne.symm hsource)

/-- **To be told again what it was told before changes no answer.** -/
theorem Told.synonyms_add_of_mem (h : Told history d) {a : Addition} (ha : a ∈ history)
    (t : String) (n : Nat) : (d.add a).synonyms t n = d.synonyms t n := by
  cases a with
  | group terms =>
    rw [Dictionary.add, addGroup]
    split
    · rename_i htwo
      exact synonyms_append_group ((h.records.groups _).2 ⟨terms, ha, htwo, rfl⟩) t n
    · rfl
  | entry source targets =>
    refine synonyms_addEntry_of_known (fun x hx hne => ?_) t n
    exact (h.records.entries _ _).2 ⟨hne, source, targets, ha, rfl, x, hx, rfl⟩

end Dictionary

/-! ## 6. The result -/

open Dictionary in
/-- **A dictionary stays in normal form, and never answers what it was asked.**  Whatever it is
told, its groups have two terms or more, its groups and its lists of targets hold distinct terms
that are not blank, and these and the keys are their own normal forms.  An answer has no more terms than were
asked for, and none of them is the term itself or another spelling of it.  To be told once more what
it was told before changes none of the answers. -/
theorem stays_normal {history : List Addition} {d : Dictionary} (h : Told history d) :
    ((∀ group ∈ d.groups, 2 ≤ group.length ∧ group.Nodup ∧
        ∀ t ∈ group, isBlankText t = false ∧ normal t = t) ∧
      ∀ e ∈ d.entries.entries, normal e.1 = e.1 ∧ e.2.Nodup ∧
        ∀ t ∈ e.2, isBlankText t = false ∧ normal t = t) ∧
    (∀ t n, (d.synonyms t n).length ≤ n ∧ ∀ r ∈ d.synonyms t n, r ≠ t ∧ normal r ≠ normal t) ∧
    ∀ a ∈ history, ∀ t n, (d.add a).synonyms t n = d.synonyms t n := by
  have hnormal := h.isNormal
  refine ⟨⟨fun group hgroup => ?_, fun e he => ?_⟩, fun t n => ?_, fun a ha => ?_⟩
  · obtain ⟨htwo, hkept⟩ := hnormal.groups group hgroup
    exact ⟨htwo, hkept.nodup, fun t ht => ⟨hkept.notBlank t ht, hkept.normal t ht⟩⟩
  · have hkept := hnormal.targets e he
    exact ⟨hnormal.keys e he, hkept.nodup, fun t ht => ⟨hkept.notBlank t ht, hkept.normal t ht⟩⟩
  · exact ⟨d.length_synonyms_le t n, fun r hr => hnormal.not_asked_of_mem_synonyms hr⟩
  · exact h.synonyms_add_of_mem ha

/-- A group that names one term in two spellings, one of them with a final sigma, and an entry for a
term of the group. -/
def odosAdditions : List Addition :=
  [.group ["ΟΔΟΣ", "Way ", "οδος", " "], .entry " WAY" ["path", "İZ", "iz"]]

/-- The group is told again behind the entry, and the entry's targets keep their places. -/
theorem stays_normal_odos : Dictionary.Told odosAdditions (odosAdditions.foldl .add {}) ∧
    (odosAdditions.foldl .add ({} : Dictionary)).groups = [["οδος", "way"]] ∧
    (∀ t ∈ ["οδος", "way"], isBlankText t = false ∧ normal t = t) ∧
    Dictionary.synonyms (odosAdditions.foldl .add {}) "way" 3 = ["οδος", "path", "i\u0307z"] ∧
    (∀ r ∈ ["οδος", "path", "i\u0307z"], r ≠ "way" ∧ normal r ≠ normal "way") ∧
    ((odosAdditions.foldl .add ({} : Dictionary)).add
      (.group ["ΟΔΟΣ", "Way ", "οδος", " "])).synonyms "way" 3 = ["οδος", "path", "i\u0307z"] := by
  have htold : Dictionary.Told odosAdditions (odosAdditions.foldl .add {}) :=
    (Dictionary.Told.empty.add (.group ["ΟΔΟΣ", "Way ", "οδος", " "])).add
      (.entry " WAY" ["path", "İZ", "iz"])
  have hgroups : (odosAdditions.foldl .add ({} : Dictionary)).groups = [["οδος", "way"]] := by
    decide +kernel
  have hanswer : Dictionary.synonyms (odosAdditions.foldl .add {}) "way" 3
      = ["οδος", "path", "i\u0307z"] := by
    decide +kernel
  obtain ⟨⟨hnormal, -⟩, hanswers, hagain⟩ := stays_normal htold
  have hkept := (hnormal _ (hgroups ▸ List.mem_singleton_self _)).2.2
  have hothers := (hanswers "way" 3).2
  have hsame := hagain (.group ["ΟΔΟΣ", "Way ", "οδος", " "]) List.mem_cons_self "way" 3
  rw [hanswer] at hothers hsame
  exact ⟨htold, hgroups, hkept, hanswer, hothers, hsame⟩

end VerseQuery
