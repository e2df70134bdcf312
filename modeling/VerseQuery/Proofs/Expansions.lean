/-
# What an expansion contributes

The alternatives that an expansion makes up are the synonyms of its words, as many of each word as
the limit allows, trimmed, without blank ones and without the text itself.  Each stands in the list
once, where it is met first.

* **Which they are.**  `Expansion.mem_flatten_iff` says it of any expansion.
* **In what order.**  An expansion comes about by putting in one set after the other, and its
  alternatives are in the order in which the sets are read (`Expansion.flatten_ofInserts`).  So one
  more set adds to the alternatives behind those that there were.
-/
import VerseQuery.Proofs.Compiled

namespace VerseQuery

open Text

/-! ## 1. Keeping first copies -/

/-- One more is kept behind the others, if it is new. -/
theorem firstSeen_concat (xs : List String) (x : String) :
    firstSeen (xs ++ [x]) = if x ∈ firstSeen xs then firstSeen xs else firstSeen xs ++ [x] := by
  rw [firstSeen, List.foldl_concat, ← firstSeen]
  simp only [List.contains_iff_mem]

/-- Keeping first copies loses nothing and adds nothing. -/
theorem mem_firstSeen_iff {xs : List String} {x : String} : x ∈ firstSeen xs ↔ x ∈ xs := by
  induction xs using List.reverseRecOn with
  | nil => rfl
  | append_singleton xs y ih =>
    rw [firstSeen_concat]
    split
    · rename_i hy
      rw [ih, List.mem_append, List.mem_singleton]
      refine ⟨Or.inl, ?_⟩
      rintro (hx | rfl)
      · exact hx
      · exact ih.1 hy
    · rw [List.mem_append, ih, List.mem_append]

/-- **What is kept stands in the order of its first copies.** -/
theorem pairwise_firstSeen (xs : List String) :
    (firstSeen xs).Pairwise fun x y => xs.idxOf x < xs.idxOf y := by
  induction xs using List.reverseRecOn with
  | nil => exact .nil
  | append_singleton xs x ih =>
    have hplace : ∀ y ∈ firstSeen xs, (xs ++ [x]).idxOf y = xs.idxOf y := fun y hy =>
      List.idxOf_append_of_mem (mem_firstSeen_iff.1 hy)
    have hbefore : (firstSeen xs).Pairwise
        fun y z => (xs ++ [x]).idxOf y < (xs ++ [x]).idxOf z := by
      refine ih.imp_of_mem fun {y z} hy hz hlt => ?_
      rwa [hplace y hy, hplace z hz]
    rw [firstSeen_concat]
    split
    · exact hbefore
    · rename_i hx
      refine List.pairwise_append.2 ⟨hbefore, List.pairwise_singleton _ _, fun y hy z hz => ?_⟩
      obtain rfl := List.mem_singleton.1 hz
      rw [hplace y hy, List.idxOf_append_of_notMem (mt mem_firstSeen_iff.2 hx)]
      exact (List.idxOf_lt_length_of_mem (mem_firstSeen_iff.1 hy)).trans_le (Nat.le_add_right _ _)

/-- Each is kept once. -/
theorem nodup_firstSeen (xs : List String) : (firstSeen xs).Nodup :=
  (pairwise_firstSeen xs).imp fun hlt he => hlt.ne (congrArg (xs.idxOf ·) he)

/-- What was kept stays in front. -/
theorem prefix_foldl_firstSeen (seen xs : List String) :
    seen <+: xs.foldl (fun seen x => if seen.contains x then seen else seen ++ [x]) seen := by
  induction xs generalizing seen with
  | nil => exact List.prefix_rfl
  | cons x xs ih =>
    rw [List.foldl_cons]
    split
    · exact ih seen
    · exact (List.prefix_append seen [x]).trans (ih _)

theorem firstSeen_prefix_append (xs ys : List String) : firstSeen xs <+: firstSeen (xs ++ ys) := by
  rw [firstSeen, firstSeen, List.foldl_append]
  exact prefix_foldl_firstSeen ..

/-- Copies of what stands in front are not kept, and change nothing behind them. -/
theorem firstSeen_append_of_subset {xs ys : List String} (h : ys ⊆ xs) (zs : List String) :
    firstSeen (xs ++ ys ++ zs) = firstSeen (xs ++ zs) := by
  have hcopies : firstSeen (xs ++ ys) = firstSeen xs := by
    induction ys using List.reverseRecOn with
    | nil => rw [List.append_nil]
    | append_singleton ys y ih =>
      obtain ⟨hys, hy⟩ := List.append_subset.1 h
      have hseen : y ∈ firstSeen xs := mem_firstSeen_iff.2 (hy (List.mem_singleton_self y))
      rw [← List.append_assoc, firstSeen_concat, ih hys, if_pos hseen]
  rw [firstSeen, List.foldl_append, ← firstSeen, hcopies, firstSeen, firstSeen, List.foldl_append]

theorem length_firstSeen_le (xs : List String) : (firstSeen xs).length ≤ xs.length :=
  (nodup_firstSeen xs).length_le_of_subset fun _ hx => mem_firstSeen_iff.1 hx

/-! ## 2. Alternatives -/

/-- **The alternatives are the synonyms that count**: those within the limit, trimmed. -/
theorem Expansion.mem_flatten_iff {e : Expansion} {limit : Nat} {text x : String} :
    x ∈ e.flatten limit text ↔ x ≠ "" ∧ x ≠ text ∧
      ∃ set ∈ e.sets, ∃ synonym ∈ set.synonyms.take limit, trim synonym = x := by
  rw [flatten, mem_firstSeen_iff, candidates, List.mem_filter, List.mem_flatMap, Bool.and_eq_true,
    bne_iff_ne, bne_iff_ne, and_comm, and_assoc]
  simp only [List.mem_map]

/-- A list is filtered in its order: what comes first then came first before. -/
theorem idxOf_lt_of_filter {p : String → Bool} {xs : List String} {x y : String} (hy : p y = true)
    (h : (xs.filter p).idxOf x < (xs.filter p).idxOf y) : xs.idxOf x < xs.idxOf y := by
  induction xs with
  | nil => exact h
  | cons z xs ih =>
    by_cases hzy : z = y
    · rw [← hzy, List.filter_cons_of_pos (hzy ▸ hy), List.idxOf_cons_self] at h
      exact absurd h (Nat.not_lt_zero _)
    · rw [List.idxOf_cons_ne _ hzy]
      by_cases hzx : z = x
      · rw [hzx, List.idxOf_cons_self]
        exact Nat.succ_pos _
      · rw [List.idxOf_cons_ne _ hzx]
        refine Nat.succ_lt_succ (ih ?_)
        by_cases hz : p z = true
        · rw [List.filter_cons_of_pos hz, List.idxOf_cons_ne _ hzx, List.idxOf_cons_ne _ hzy] at h
          exact Nat.lt_of_succ_lt_succ h
        · rwa [List.filter_cons_of_neg hz] at h

/-- What a request is searched for with is trimmed, and not blank. -/
theorem Settings.trim_of_mem_synonymsFor {s : Settings} {r : Request} {e : Option Expansion}
    {x : String} (h : x ∈ s.synonymsFor r e) : trim x = x ∧ isBlankText x = false := by
  cases e with
  | none => exact absurd h List.not_mem_nil
  | some known =>
    rw [synonymsFor] at h
    split at h
    · obtain ⟨hne, -, set, -, synonym, -, rfl⟩ := Expansion.mem_flatten_iff.1 h
      exact ⟨trim_trim synonym, (isBlankText_trim synonym).trans (trim_ne_empty_iff.1 hne)⟩
    · exact absurd h List.not_mem_nil

/-- No request is searched for with an empty synonym. -/
theorem Settings.ne_nil_of_mem_synonymsFor {s : Settings} {r : Request} {e : Option Expansion}
    {x : String} (h : x ∈ s.synonymsFor r e) : x.toList ≠ [] := by
  have hx := trim_of_mem_synonymsFor h
  rw [← hx.1]
  exact trim_ne_empty hx.2

/-! ## 3. Expansions that grow -/

namespace Expansion

/-- The expansion that begins empty and into which the sets were put one after the other. -/
def ofInserts (inserted : List SynonymSet) : Expansion :=
  inserted.foldl (fun e set => e.insert set.word set.synonyms) {}

/-- The synonyms of the sets within the limit, trimmed, as they are met when the sets are read in
the order in which they were put in. -/
def reading (inserted : List SynonymSet) (limit : Nat) : List String :=
  inserted.flatMap fun set => (set.synonyms.take limit).map trim

theorem sets_ofInserts (inserted : List SynonymSet) : (ofInserts inserted).sets = inserted := by
  induction inserted using List.reverseRecOn with
  | nil => rfl
  | append_singleton inserted set ih => rw [ofInserts, List.foldl_concat, ← ofInserts, insert, ih]

variable {e : Expansion} {inserted : List SynonymSet} {limit : Nat} {text : String}

theorem candidates_ofInserts : (ofInserts inserted).candidates limit text =
    (reading inserted limit).filter fun synonym => synonym != "" && synonym != text := by
  rw [candidates, sets_ofInserts, reading]

/-- One more set adds what it contributes behind all others. -/
theorem candidates_insert (word : String) (synonyms : List String) :
    (e.insert word synonyms).candidates limit text =
      e.candidates limit text ++ candidates ⟨[⟨word, synonyms⟩]⟩ limit text := by
  rw [candidates, candidates, candidates, insert, List.flatMap_append, List.filter_append]

/-- **The alternatives are those synonyms that count, each where it is met first.**  A synonym
counts if it is within the limit of its set, is not blank and, trimmed, is not the text.  It takes
its place in the limit if it does not count, too, and no set changes what was contributed before
it. -/
theorem flatten_ofInserts (inserted : List SynonymSet) (limit : Nat) (text : String) :
    ((ofInserts inserted).flatten limit text).Nodup ∧
      (∀ x, x ∈ (ofInserts inserted).flatten limit text ↔ isBlankText x = false ∧ x ≠ text ∧
        ∃ set ∈ inserted, ∃ synonym ∈ set.synonyms.take limit, trim synonym = x) ∧
      ((ofInserts inserted).flatten limit text).Pairwise
        (fun x y => (reading inserted limit).idxOf x < (reading inserted limit).idxOf y) ∧
      ∀ word synonyms, (ofInserts inserted).flatten limit text <+:
        ((ofInserts inserted).insert word synonyms).flatten limit text := by
  refine ⟨nodup_firstSeen _, fun x => ?_, ?_, fun word synonyms => ?_⟩
  · rw [mem_flatten_iff, sets_ofInserts]
    -- what is trimmed already is blank only if it is empty
    have hblank : ∀ synonym, trim synonym = x → (x ≠ "" ↔ isBlankText x = false) := by
      rintro synonym rfl
      rw [trim_ne_empty_iff, isBlankText_trim]
    constructor
    · rintro ⟨hne, htext, set, hset, synonym, hsynonym, htrim⟩
      exact ⟨(hblank synonym htrim).1 hne, htext, set, hset, synonym, hsynonym, htrim⟩
    · rintro ⟨hne, htext, set, hset, synonym, hsynonym, htrim⟩
      exact ⟨(hblank synonym htrim).2 hne, htext, set, hset, synonym, hsynonym, htrim⟩
  · have horder := pairwise_firstSeen ((ofInserts inserted).candidates limit text)
    rw [candidates_ofInserts] at horder
    rw [flatten, candidates_ofInserts]
    refine horder.imp_of_mem fun _ hy hlt => ?_
    exact idxOf_lt_of_filter (List.mem_filter.1 (mem_firstSeen_iff.1 hy)).2 hlt
  · rw [flatten, flatten, candidates_insert]
    exact firstSeen_prefix_append _ _

/-- A blank synonym and one that is the text take two places of three. -/
example :
    flatten (ofInserts [⟨"kind", ["charity ", " ", "love", "mercy"]⟩,
      ⟨"kind", ["good", "charity"]⟩]) 3 "love" = ["charity", "good"] := by
  decide +kernel

end Expansion

end VerseQuery
