/-
# What a dictionary answers

A dictionary is filled by additions: groups of terms that stand for each other, and entries that
lead from one term to others.  What it answers is told here from the additions alone
(`synonyms_of_told`), whatever their number and order, and however often they repeat each other.

* **Normal forms.**  Terms count as one if they have the same normal form, and only a blank term has
  a blank one (`isBlankText_normal`).
* **What is remembered.**  The groups and entries of a dictionary hold what its additions named, and
  nothing else (`Dictionary.Records`); each addition keeps this (`Dictionary.Records.add`), and so
  does a row of them, from an empty dictionary or from one that was read from a text.
* **What is answered.**  The terms named next to the one that was asked for, each once, and as many
  as were asked for.  Stopping when there are enough gives the front of the whole answer
  (`Dictionary.gather_eq`).
-/
import Mathlib.Data.List.Basic
import Mathlib.Data.List.Flatten
import VerseQuery.Files
import VerseQuery.Proofs.Characters
import VerseQuery.Proofs.Expansions
import VerseQuery.Synonyms.Dictionary

namespace VerseQuery

open Text

/-! ## 1. Normal forms -/

/-- No run of the table leads to a blank. -/
theorem lowerTable_not_blank : ∀ block ∈ lowerTable, ∀ run ∈ block.entries, ∀ n ∈ blankCodes,
    n < run.image ∨ run.image + (run.last - run.first) < n := by
  decide +kernel

theorem isBlank_mapChar_lowerTable {c : Char} (h : isBlank c = false) :
    isBlank (CaseRun.mapChar lowerTable c) = false := by
  rcases mapChar_cases lowerTable c with hc | ⟨block, hblock, run, hrun, hmoves, hc⟩
  · rw [hc, h]
  · rw [hc, ← Bool.not_eq_true]
    intro hblank
    have hrange : run.first ≤ c.toNat ∧ c.toNat ≤ run.last := by
      simp only [CaseRun.moves, Bool.and_eq_true, decide_eq_true_eq] at hmoves
      exact hmoves.1
    have hcode := mem_blankCodes hblank
    by_cases hn : (run.apply c.toNat).isValidChar
    · rw [toNat_ofNat hn] at hcode
      have hfar := lowerTable_not_blank block hblock run hrun _ hcode
      rw [CaseRun.apply] at hfar
      omega
    · -- no character has this code, and the null character that stands in is not blank
      rw [Char.ofNat, dif_neg hn] at hblank
      exact absurd hblank (by decide)

/-- The lower-case form of a character that is not blank is not blank either. -/
theorem isBlank_of_mem_lowerChar {before after : List Char} {c d : Char} (h : isBlank c = false)
    (hd : d ∈ lowerChar before c after) : isBlank d = false := by
  rw [lowerChar] at hd
  split at hd
  · split at hd
    · obtain rfl := List.mem_singleton.1 hd
      decide
    · obtain rfl := List.mem_singleton.1 hd
      decide
  · split at hd
    · rcases List.mem_cons.1 hd with rfl | hd
      · decide
      · obtain rfl := List.mem_singleton.1 hd
        decide
    · obtain rfl := List.mem_singleton.1 hd
      exact isBlank_mapChar_lowerTable h

theorem lowerChar_ne_nil (before : List Char) (c : Char) (after : List Char) :
    lowerChar before c after ≠ [] := by
  rw [lowerChar]
  split
  · split
    · exact List.cons_ne_nil _ _
    · exact List.cons_ne_nil _ _
  · split
    · exact List.cons_ne_nil _ _
    · exact List.cons_ne_nil _ _

theorem exists_mem_lowerAfter {before cs : List Char} (h : ∃ c ∈ cs, isBlank c = false) :
    ∃ d ∈ lowerAfter before cs, isBlank d = false := by
  induction cs generalizing before with
  | nil =>
    obtain ⟨c, hc, -⟩ := h
    exact absurd hc List.not_mem_nil
  | cons c rest ih =>
    obtain ⟨b, hb, hblank⟩ := h
    rw [lowerAfter]
    rcases List.mem_cons.1 hb with rfl | hb
    · obtain ⟨d, hd⟩ := List.exists_mem_of_ne_nil _ (lowerChar_ne_nil before b rest)
      exact ⟨d, List.mem_append_left _ hd, isBlank_of_mem_lowerChar hblank hd⟩
    · obtain ⟨d, hd, hd'⟩ := @ih (c :: before) ⟨b, hb, hblank⟩
      exact ⟨d, List.mem_append_right _ hd, hd'⟩

theorem isBlankText_eq_false_iff {s : String} :
    isBlankText s = false ↔ ∃ c ∈ s.toList, isBlank c = false := by
  rw [isBlankText, List.all_eq_false]
  simp only [Bool.not_eq_true]

theorem normal_eq_empty {s : String} (h : isBlankText s = true) : normal s = "" := by
  rw [normal, trim_eq_empty_iff.2 h]
  rfl

/-- **A term is blank just if its normal form is.** -/
theorem isBlankText_normal (s : String) : isBlankText (normal s) = isBlankText s := by
  cases h : isBlankText s with
  | true =>
    rw [normal_eq_empty h]
    rfl
  | false =>
    rw [normal, isBlankText_eq_false_iff, lower, String.toList_ofList]
    exact exists_mem_lowerAfter (isBlankText_eq_false_iff.1 ((isBlankText_trim s).trans h))

theorem normal_ne_empty_iff {s : String} : normal s ≠ "" ↔ isBlankText s = false := by
  rw [← Bool.not_eq_true, not_iff_not]
  constructor
  · intro h
    rw [← isBlankText_normal, h]
    rfl
  · exact normal_eq_empty

/-! ## 2. Additions -/

/-- What a dictionary is told: that terms stand for each other, or that a term leads to others. -/
inductive Addition where
  | group (terms : List String)
  | entry (source : String) (targets : List String)
  deriving DecidableEq

/-- The tables of groups and of entries in a document, each of which may be missing. -/
def Toml.synonymTables? (t : Toml) :
    Option (KeyTable (List String) × KeyTable (List String)) := do
  let entries ← asRecord? ["multi_way", "one_way"] t
  return (← field entries "multi_way" ∅ asStringsTable?,
    ← field entries "one_way" ∅ asStringsTable?)

namespace Dictionary

def add (d : Dictionary) : Addition → Dictionary
  | .group terms => d.addGroup terms
  | .entry source targets => d.addEntry source targets

/-- What two tables tell a dictionary, in the order of their keys: first the groups, each a term and
its equals, and then the entries. -/
def tableAdditions (groups entries : KeyTable (List String)) : List Addition :=
  groups.entries.map (fun e => .group (e.1 :: e.2)) ++ entries.entries.map fun e => .entry e.1 e.2

/-- What a text tells a dictionary, which is nothing if there is no dictionary in it. -/
def textAdditions (s : String) : List Addition :=
  match (Toml.read? s).bind Toml.synonymTables? with
  | some (groups, entries) => tableAdditions groups entries
  | none => []

theorem ofTables_eq (groups entries : KeyTable (List String)) :
    ofTables groups entries = (tableAdditions groups entries).foldl add {} := by
  simp only [ofTables, tableAdditions, List.foldl_append, List.foldl_map, add]

theorem ofToml?_eq (t : Toml) :
    ofToml? t = t.synonymTables?.map fun tables => ofTables tables.1 tables.2 := by
  rw [ofToml?, Toml.synonymTables?]
  cases Toml.asRecord? ["multi_way", "one_way"] t with
  | none => rfl
  | some entries =>
    cases hgroups : Toml.field entries "multi_way" ∅ Toml.asStringsTable? with
    | none => simp [hgroups]
    | some groups =>
      cases hentries : Toml.field entries "one_way" ∅ Toml.asStringsTable? with
      | none => simp [hgroups, hentries]
      | some entries => simp [hgroups, hentries]

/-- A dictionary that is read from a text is one that was told what the text tells. -/
theorem eq_of_ofText? {s : String} {d : Dictionary} (h : ofText? s = some d) :
    d = (textAdditions s).foldl add {} := by
  obtain ⟨t, ht, hd⟩ := Option.bind_eq_some_iff.1 h
  rw [ofToml?_eq] at hd
  obtain ⟨tables, htables, rfl⟩ := Option.map_eq_some_iff.1 hd
  have htext : textAdditions s = tableAdditions tables.1 tables.2 := by
    rw [textAdditions, ht, Option.bind_some, htables]
  rw [htext, ofTables_eq]

/-- The dictionaries that can come about, each with what it was told so far. -/
inductive Told : List Addition → Dictionary → Prop
  | empty : Told [] {}
  | text {s : String} {d : Dictionary} (h : ofText? s = some d) : Told (textAdditions s) d
  | add {history : List Addition} {d : Dictionary} (h : Told history d) (a : Addition) :
      Told (history ++ [a]) (d.add a)

/-- Some group that the dictionary was told has both terms in it. -/
def Grouped (history : List Addition) (s t : String) : Prop :=
  ∃ terms, .group terms ∈ history ∧ (∃ x ∈ terms, normal x = s) ∧ ∃ y ∈ terms, normal y = t

/-- The dictionary was told that the first term leads to the second. -/
def Led (history : List Addition) (s t : String) : Prop :=
  ∃ source targets, .entry source targets ∈ history ∧ normal source = s ∧ ∃ y ∈ targets, normal y = t

theorem Grouped.symm {history : List Addition} {s t : String} (h : Grouped history s t) :
    Grouped history t s := by
  obtain ⟨terms, hterms, hs, ht⟩ := h
  exact ⟨terms, hterms, ht, hs⟩

/-- One more entry leads to its targets and nowhere else. -/
theorem led_append_entry {history : List Addition} {source : String} {targets : List String}
    {s t : String} : Led (history ++ [.entry source targets]) s t ↔
      Led history s t ∨ normal source = s ∧ ∃ y ∈ targets, normal y = t := by
  simp only [Led, List.mem_append, List.mem_singleton, Addition.entry.injEq]
  constructor
  · rintro ⟨source', targets', hmem | ⟨rfl, rfl⟩, hs, ht⟩
    · exact Or.inl ⟨source', targets', hmem, hs, ht⟩
    · exact Or.inr ⟨hs, ht⟩
  · rintro (⟨source', targets', hmem, hs, ht⟩ | ⟨hs, ht⟩)
    · exact ⟨source', targets', Or.inl hmem, hs, ht⟩
    · exact ⟨source, targets, Or.inr ⟨rfl, rfl⟩, hs, ht⟩

/-! ## 3. What is remembered -/

/-- A term is kept behind those that are known, unless it is blank or one of them. -/
theorem newTerms_cons (known : List String) (term : String) (terms : List String) :
    newTerms known (term :: terms) = newTerms (if normal term == "" || known.contains (normal term)
      then known else known ++ [normal term]) terms := by
  simp only [newTerms, List.foldl_cons]

/-- The terms that are kept are those known before and the new ones that are not blank. -/
theorem mem_newTerms {known terms : List String} {t : String} :
    t ∈ newTerms known terms ↔ t ∈ known ∨ t ≠ "" ∧ ∃ x ∈ terms, normal x = t := by
  induction terms generalizing known with
  | nil => simp [newTerms]
  | cons y rest ih =>
    rw [newTerms_cons, ih, List.exists_mem_cons_iff]
    split
    · rename_i hskip
      constructor
      · rintro (hknown | ⟨hne, hrest⟩)
        · exact Or.inl hknown
        · exact Or.inr ⟨hne, Or.inr hrest⟩
      · rintro (hknown | ⟨hne, rfl | hrest⟩)
        · exact Or.inl hknown
        · exact Or.inl (by simpa [hne] using hskip)
        · exact Or.inr ⟨hne, hrest⟩
    · rename_i hnew
      have hy : normal y ≠ "" := fun h => hnew (by simp [h])
      rw [List.mem_append, List.mem_singleton]
      constructor
      · rintro ((hknown | rfl) | ⟨hne, hrest⟩)
        · exact Or.inl hknown
        · exact Or.inr ⟨hy, Or.inl rfl⟩
        · exact Or.inr ⟨hne, Or.inr hrest⟩
      · rintro (hknown | ⟨hne, rfl | hrest⟩)
        · exact Or.inl (Or.inl hknown)
        · exact Or.inl (Or.inr rfl)
        · exact Or.inr ⟨hne, hrest⟩

theorem mem_groups_addGroup {d : Dictionary} {terms group : List String} :
    group ∈ (d.addGroup terms).groups ↔
      group ∈ d.groups ∨ 1 < (newTerms [] terms).length ∧ newTerms [] terms = group := by
  rw [addGroup]
  split
  · rename_i hlen
    simp [hlen, eq_comm]
  · rename_i hlen
    simp [hlen]

theorem entries_addGroup (d : Dictionary) (terms : List String) :
    (d.addGroup terms).entries = d.entries := by
  rw [addGroup]
  split
  · rfl
  · rfl

theorem get?_entries_addEntry (d : Dictionary) (source : String) (targets : List String)
    (key : String) : (d.addEntry source targets).entries.get? key
      = if normal source = key then
          some (newTerms ((d.entries.get? (normal source)).getD []) targets)
        else d.entries.get? key :=
  KeyTable.get?_insert ..

/-- The groups and entries of the dictionary hold what it was told, and nothing else. -/
structure Records (history : List Addition) (d : Dictionary) : Prop where
  groups : ∀ group, group ∈ d.groups ↔
    ∃ terms, .group terms ∈ history ∧ 1 < (newTerms [] terms).length ∧ newTerms [] terms = group
  entries : ∀ key t, t ∈ (d.entries.get? key).getD [] ↔ t ≠ "" ∧ Led history key t

namespace Records

variable {history : List Addition} {d : Dictionary}

theorem nil : Records [] {} where
  groups := by simp
  entries := by
    intro key t
    constructor
    · exact fun h => absurd h List.not_mem_nil
    · rintro ⟨-, source, targets, h, -⟩
      exact absurd h List.not_mem_nil

theorem addGroup (h : Records history d) (terms : List String) :
    Records (history ++ [.group terms]) (d.addGroup terms) where
  groups := by
    intro group
    rw [mem_groups_addGroup, h.groups]
    simp [or_and_right, exists_or]
  entries := by
    intro key t
    rw [entries_addGroup, h.entries]
    simp [Led]

theorem addEntry (h : Records history d) (source : String) (targets : List String) :
    Records (history ++ [.entry source targets]) (d.addEntry source targets) where
  groups := by
    intro group
    have hgroups : (d.addEntry source targets).groups = d.groups := rfl
    rw [hgroups, h.groups]
    simp
  entries := by
    intro key t
    rw [get?_entries_addEntry, led_append_entry]
    split
    · rename_i hkey
      rw [Option.getD_some, mem_newTerms, h.entries, hkey, ← and_or_left]
      simp
    · rename_i hkey
      rw [h.entries]
      simp [hkey]

theorem add (h : Records history d) : ∀ a : Addition, Records (history ++ [a]) (d.add a)
  | .group terms => h.addGroup terms
  | .entry source targets => h.addEntry source targets

theorem foldl (additions : List Addition) (h : Records history d) :
    Records (history ++ additions) (additions.foldl Dictionary.add d) := by
  induction additions generalizing history d with
  | nil =>
    rw [List.append_nil]
    exact h
  | cons a rest ih =>
    have hrest := ih (h.add a)
    rwa [List.append_assoc] at hrest

end Records

/-- Every dictionary holds what it was told. -/
theorem Told.records {history : List Addition} {d : Dictionary} (h : Told history d) :
    Records history d := by
  induction h with
  | empty => exact Records.nil
  | text htext =>
    rw [eq_of_ofText? htext]
    exact Records.nil.foldl _
  | add _ a ih => exact ih.add a

/-! ## 4. What is answered -/

/-- How many terms the dictionary holds in its groups and under its entries. -/
def termCount (d : Dictionary) : Nat :=
  d.groups.flatten.length + (d.entries.entries.flatMap (·.2)).length

variable {history : List Addition} {d : Dictionary}

theorem mem_related {s t : String} : t ∈ d.related s ↔
    (∃ group ∈ d.groups, s ∈ group ∧ t ∈ group) ∨ t ∈ (d.entries.get? s).getD [] := by
  simp only [related, List.mem_append, List.mem_flatten, List.mem_filter, List.contains_iff_mem,
    and_assoc]

theorem length_related_le (d : Dictionary) (s : String) : (d.related s).length ≤ d.termCount := by
  have hgroups : (d.groups.filter (·.contains s)).flatten.length ≤ d.groups.flatten.length :=
    (List.Sublist.flatten List.filter_sublist).length_le
  have hentry : ((d.entries.get? s).getD []).length
      ≤ (d.entries.entries.flatMap (·.2)).length := by
    cases h : d.entries.get? s with
    | none => exact Nat.zero_le _
    | some targets =>
      have hmem := List.mem_map_of_mem (f := (·.2)) (KeyTable.mem_of_get?_eq_some h)
      exact (List.sublist_flatten_of_mem hmem).length_le
  rw [related, List.length_append, termCount]
  exact Nat.add_le_add hgroups hentry

/-- To stop when there are enough is to go through all candidates and keep as many as wanted. -/
theorem gather_eq {term : String} {limit : Nat} {found candidates : List String}
    (hfound : found.length ≤ limit) : gather term limit found candidates =
      ((candidates.filter (· != term)).foldl
        (fun seen x => if seen.contains x then seen else seen ++ [x]) found).take limit := by
  induction candidates generalizing found with
  | nil => exact (List.take_of_length_le hfound).symm
  | cons c rest ih =>
    rw [gather]
    split
    · -- the limit is reached, and whatever else is kept comes behind
      rename_i hfull
      obtain rfl := Nat.le_antisymm hfound hfull
      exact List.prefix_iff_eq_take.1 (prefix_foldl_firstSeen ..)
    · rename_i hroom
      by_cases hc : c = term
      · rw [if_neg (by simp [hc]), ih hfound, List.filter_cons_of_neg (by simp [hc])]
      · rw [List.filter_cons_of_pos (by simpa using hc), List.foldl_cons]
        by_cases hseen : c ∈ found
        · rw [if_neg (by simp [hseen]), ih hfound, if_pos (by simpa using hseen)]
        · rw [if_pos (by simp [hc, hseen]), if_neg (by simpa using hseen), ih]
          rw [List.length_append, List.length_singleton]
          omega

theorem synonyms_eq (d : Dictionary) (a : String) (limit : Nat) : d.synonyms a limit
    = (firstSeen ((d.related (normal a)).filter (· != normal a))).take limit :=
  gather_eq (Nat.zero_le limit)

/-- With a limit for all the terms there are, nothing is left out. -/
theorem mem_synonyms_iff {a t : String} {limit : Nat} (hlimit : d.termCount ≤ limit) :
    t ∈ d.synonyms a limit ↔ t ∈ d.related (normal a) ∧ normal a ≠ t := by
  have hlen : (firstSeen ((d.related (normal a)).filter (· != normal a))).length ≤ limit :=
    calc _ ≤ ((d.related (normal a)).filter (· != normal a)).length := length_firstSeen_le _
      _ ≤ (d.related (normal a)).length := List.length_filter_le ..
      _ ≤ d.termCount := d.length_related_le _
      _ ≤ limit := hlimit
  rw [synonyms_eq, List.take_of_length_le hlen, mem_firstSeen_iff, List.mem_filter, bne_iff_ne,
    ne_comm]

/-- Terms stand next to each other in a group that is kept just if a group was told that has both
and they are two. -/
theorem Records.exists_group_iff (h : Records history d) {s t : String} (hne : s ≠ t) :
    (∃ group ∈ d.groups, s ∈ group ∧ t ∈ group) ↔ s ≠ "" ∧ t ≠ "" ∧ Grouped history s t := by
  constructor
  · rintro ⟨group, hgroup, hs, ht⟩
    obtain ⟨terms, hterms, -, rfl⟩ := (h.groups group).1 hgroup
    rw [mem_newTerms] at hs ht
    obtain ⟨hs, hs'⟩ := hs.resolve_left List.not_mem_nil
    obtain ⟨ht, ht'⟩ := ht.resolve_left List.not_mem_nil
    exact ⟨hs, ht, terms, hterms, hs', ht'⟩
  · rintro ⟨hs, ht, terms, hterms, hs', ht'⟩
    have hmem : s ∈ newTerms [] terms := mem_newTerms.2 (Or.inr ⟨hs, hs'⟩)
    have hmem' : t ∈ newTerms [] terms := mem_newTerms.2 (Or.inr ⟨ht, ht'⟩)
    -- two terms have two normal forms, so the group is not left out as a group of one
    have htwo : [s, t].length ≤ (newTerms [] terms).length := by
      have hnodup : [s, t].Nodup := by simpa using hne
      refine hnodup.length_le_of_subset fun x hx => ?_
      rcases List.mem_pair.1 hx with rfl | rfl
      · exact hmem
      · exact hmem'
    exact ⟨_, (h.groups _).2 ⟨terms, hterms, htwo, rfl⟩, hmem, hmem'⟩

/-- What the dictionary names next to a term is what it was told stands next to it. -/
theorem Records.mem_related_iff (h : Records history d) {s t : String} (hne : s ≠ t) :
    t ∈ d.related s ↔ t ≠ "" ∧ (s ≠ "" ∧ Grouped history s t ∨ Led history s t) := by
  rw [mem_related, h.exists_group_iff hne, h.entries, and_left_comm, ← and_or_left]

/-- Nothing blank is answered, and nothing that is not in normal form. -/
theorem Records.exists_normal_eq (h : Records history d) {s t : String} (hne : s ≠ t)
    (ht : t ∈ d.related s) : ∃ b, isBlankText b = false ∧ normal b = t := by
  obtain ⟨hblank, htold⟩ := (h.mem_related_iff hne).1 ht
  obtain ⟨b, rfl⟩ : ∃ b, normal b = t := by
    obtain ⟨-, terms, -, -, b, -, hb⟩ | ⟨-, targets, -, -, b, -, hb⟩ := htold
    · exact ⟨b, hb⟩
    · exact ⟨b, hb⟩
  exact ⟨b, normal_ne_empty_iff.1 hblank, rfl⟩

theorem nodup_synonyms (d : Dictionary) (a : String) (limit : Nat) :
    (d.synonyms a limit).Nodup := by
  rw [synonyms_eq]
  exact (nodup_firstSeen _).sublist (List.take_sublist ..)

/-- A smaller limit takes from the front. -/
theorem synonyms_eq_take (d : Dictionary) (a : String) {n limit : Nat} (hn : n ≤ limit) :
    d.synonyms a n = (d.synonyms a limit).take n := by
  rw [synonyms_eq, synonyms_eq, List.take_take, Nat.min_eq_left hn]

/-- An entry changes what is answered for its own source only. -/
theorem synonyms_addEntry (d : Dictionary) {source c : String} (targets : List String) (n : Nat)
    (hc : normal c ≠ normal source) : (d.addEntry source targets).synonyms c n = d.synonyms c n := by
  have hrelated : (d.addEntry source targets).related (normal c) = d.related (normal c) := by
    rw [related, get?_entries_addEntry, if_neg hc.symm]
    rfl
  rw [synonyms, synonyms, hrelated]

end Dictionary

open Dictionary in
/-- **A dictionary answers what it was told.**  With a limit for all its terms it answers those that
were told in one group with the term, or that the term was told to lead to, and of these each that
is neither blank nor the term itself.  So terms of a group answer each other, and an entry leads one
way: no term but its source is answered otherwise than before.  Each answer is given once, and a
smaller limit takes from the front. -/
theorem synonyms_of_told {history : List Addition} {d : Dictionary} (h : Told history d)
    (a : String) {limit : Nat} (hlimit : d.termCount ≤ limit) :
    (∀ b, isBlankText b = false → (normal b ∈ d.synonyms a limit ↔ normal a ≠ normal b ∧
      (isBlankText (normal a) = false ∧ Grouped history (normal a) (normal b) ∨
        Led history (normal a) (normal b)))) ∧
    (∀ t ∈ d.synonyms a limit, ∃ b, isBlankText b = false ∧ normal b = t) ∧
    (∀ b, isBlankText a = false → isBlankText b = false → normal a ≠ normal b →
      Grouped history (normal a) (normal b) →
        normal b ∈ d.synonyms a limit ∧ normal a ∈ d.synonyms b limit) ∧
    (∀ source targets n, normal a ≠ normal source →
      (d.addEntry source targets).synonyms a n = d.synonyms a n) ∧
    (∀ n, (d.synonyms a n).Nodup) ∧
    ∀ n ≤ limit, d.synonyms a n = (d.synonyms a limit).take n := by
  have hanswer : ∀ a b, isBlankText b = false → (normal b ∈ d.synonyms a limit ↔
      normal a ≠ normal b ∧ (isBlankText (normal a) = false ∧
        Grouped history (normal a) (normal b) ∨ Led history (normal a) (normal b))) := by
    intro a b hb
    rw [mem_synonyms_iff hlimit, and_comm, and_congr_right_iff, isBlankText_normal,
      ← normal_ne_empty_iff]
    intro hne
    rw [h.records.mem_related_iff hne, and_iff_right (normal_ne_empty_iff.2 hb)]
  refine ⟨hanswer a, fun t ht => ?_, fun b ha hb hne hgroup => ⟨?_, ?_⟩,
    fun source targets n hc => d.synonyms_addEntry targets n hc, d.nodup_synonyms a,
    fun n hn => d.synonyms_eq_take a hn⟩
  · obtain ⟨hrelated, hne⟩ := (mem_synonyms_iff hlimit).1 ht
    exact h.records.exists_normal_eq hne hrelated
  · exact (hanswer a b hb).2 ⟨hne, Or.inl ⟨by rwa [isBlankText_normal], hgroup⟩⟩
  · exact (hanswer b a ha).2 ⟨hne.symm, Or.inl ⟨by rwa [isBlankText_normal], hgroup.symm⟩⟩

/-- A text with a group and an entry. -/
def loveText : String :=
  "[multi_way]\nlove = [\"Charity \", \"affection\"]\n\n[one_way]\nlord = [\"god\", \"Master\"]\n"

/-- A group that is told later has a term in common with that of the text; the entry leads one way. -/
theorem synonyms_of_told_love : ∃ d, Dictionary.ofText? loveText = some d ∧
    "mercy" ∈ (d.addGroup ["CHARITY", " mercy", ""]).synonyms "charity" 7 ∧
    "charity" ∈ (d.addGroup ["CHARITY", " mercy", ""]).synonyms "Mercy" 7 ∧
    "master" ∈ (d.addGroup ["CHARITY", " mercy", ""]).synonyms " Lord" 7 := by
  have htext : Dictionary.ofText? loveText = some (Dictionary.ofTables
      (.ofList [("love", ["Charity ", "affection"])]) (.ofList [("lord", ["god", "Master"])])) := by
    decide +kernel
  have hadditions : Dictionary.textAdditions loveText =
      [.group ["love", "Charity ", "affection"], .entry "lord" ["god", "Master"]] := by
    decide +kernel
  have htold := (Dictionary.Told.text htext).add (.group ["CHARITY", " mercy", ""])
  rw [hadditions] at htold
  have hcount : ((Dictionary.ofTables (.ofList [("love", ["Charity ", "affection"])])
      (.ofList [("lord", ["god", "Master"])])).add (.group ["CHARITY", " mercy", ""])).termCount
        ≤ 7 := by
    decide +kernel
  have hcharity : normal "charity" = "charity" := by decide +kernel
  have hmercy : normal "Mercy" = "mercy" := by decide +kernel
  have hmaster : normal "Master" = "master" := by decide +kernel
  obtain ⟨-, -, hboth, -⟩ := synonyms_of_told htold "charity" hcount
  obtain ⟨hthere, hback⟩ := hboth "Mercy" (by decide) (by decide) (by rw [hcharity, hmercy]; decide)
    ⟨["CHARITY", " mercy", ""], by simp, ⟨"CHARITY", by simp, by decide +kernel⟩,
      " mercy", by simp, by decide +kernel⟩
  have hled := ((synonyms_of_told htold " Lord" hcount).1 "Master" (by decide)).2
    ⟨by decide +kernel, Or.inr ⟨"lord", ["god", "Master"], by simp, by decide +kernel, "Master",
      by simp, rfl⟩⟩
  rw [hmercy] at hthere
  rw [hcharity] at hback
  rw [hmaster] at hled
  exact ⟨_, htext, hthere, hback, hled⟩

end VerseQuery
