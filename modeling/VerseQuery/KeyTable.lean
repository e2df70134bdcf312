/-
# Tables sorted by key

A table holds each key once, with its entries in rising order of the keys.  Since the order is part
of the type, two tables with the same entries are equal, however they were filled.
-/

namespace VerseQuery

/-- Entries under keys, in rising order of the keys. -/
structure KeyTable (α : Type) where
  entries : List (String × α)
  rising : entries.Pairwise (fun a b => a.1 < b.1)
  deriving DecidableEq

namespace KeyTable

variable {α : Type}

instance : EmptyCollection (KeyTable α) := ⟨⟨[], .nil⟩⟩

instance : Inhabited (KeyTable α) := ⟨∅⟩

/-! ## 1. Sorted lists of entries -/

/-- Puts the entry in its place, over an entry with the same key. -/
def insertEntry (key : String) (value : α) : List (String × α) → List (String × α)
  | [] => [(key, value)]
  | e :: rest =>
    if key < e.1 then (key, value) :: e :: rest
    else if e.1 < key then e :: insertEntry key value rest
    else (key, value) :: rest

theorem eq_or_mem_of_mem_insertEntry {key : String} {value : α} {e : String × α} :
    ∀ {entries : List (String × α)}, e ∈ insertEntry key value entries →
      e = (key, value) ∨ e ∈ entries
  | [], h => Or.inl (List.mem_singleton.1 h)
  | d :: rest, h => by
    simp only [insertEntry] at h
    split at h
    · rcases List.mem_cons.1 h with rfl | h
      · exact Or.inl rfl
      · exact Or.inr h
    · split at h
      · rcases List.mem_cons.1 h with rfl | h
        · exact Or.inr List.mem_cons_self
        · exact (eq_or_mem_of_mem_insertEntry h).imp id (List.mem_cons_of_mem _)
      · rcases List.mem_cons.1 h with rfl | h
        · exact Or.inl rfl
        · exact Or.inr (List.mem_cons_of_mem _ h)

theorem rising_insertEntry {key : String} {value : α} :
    ∀ {entries : List (String × α)}, entries.Pairwise (fun a b => a.1 < b.1) →
      (insertEntry key value entries).Pairwise (fun a b => a.1 < b.1)
  | [], _ => by simp [insertEntry]
  | d :: rest, h => by
    obtain ⟨hd, hrest⟩ := List.pairwise_cons.1 h
    simp only [insertEntry]
    split
    · next hlt =>
      refine List.pairwise_cons.2 ⟨fun e he => ?_, h⟩
      rcases List.mem_cons.1 he with rfl | he
      · exact hlt
      · exact String.lt_trans hlt (hd e he)
    · next hnot =>
      split
      · next hgt =>
        refine List.pairwise_cons.2 ⟨fun e he => ?_, rising_insertEntry hrest⟩
        rcases eq_or_mem_of_mem_insertEntry he with rfl | he
        · exact hgt
        · exact hd e he
      · next hnot' =>
        have hkey : key = d.1 :=
          String.le_antisymm (String.not_lt.1 hnot') (String.not_lt.1 hnot)
        exact List.pairwise_cons.2 ⟨fun e he => hkey ▸ hd e he, hrest⟩

theorem find?_insertEntry (key k : String) (value : α) : ∀ entries : List (String × α),
    (insertEntry key value entries).find? (·.1 == k)
      = if key = k then some (key, value) else entries.find? (·.1 == k)
  | [] => by
    by_cases hk : key = k
    · simp [insertEntry, hk]
    · simp [insertEntry, hk]
  | e :: rest => by
    simp only [insertEntry]
    split
    · by_cases hk : key = k
      · simp [hk]
      · simp [hk]
    · next hnot =>
      split
      · next hgt =>
        have hne : e.1 ≠ key := String.ne_of_lt hgt
        rw [List.find?_cons, List.find?_cons, find?_insertEntry key k value rest]
        by_cases hk : key = k
        · have he : (e.1 == k) = false := by simpa [← hk] using hne
          simp [hk, he]
        · simp [hk]
      · next hnot' =>
        have hkey : key = e.1 :=
          String.le_antisymm (String.not_lt.1 hnot') (String.not_lt.1 hnot)
        by_cases hk : key = k
        · simp [hk]
        · have he : ¬e.1 = k := hkey ▸ hk
          simp [hk, he]

/-! ## 2. Tables -/

/-- Stores the value under the key, in place of what was there. -/
def insert (table : KeyTable α) (key : String) (value : α) : KeyTable α :=
  ⟨insertEntry key value table.entries, rising_insertEntry table.rising⟩

/-- The value under the key. -/
def get? (table : KeyTable α) (key : String) : Option α :=
  (table.entries.find? (·.1 == key)).map (·.2)

/-- What is in a table was stored last, or was there before. -/
theorem eq_or_mem_of_mem_insert {table : KeyTable α} {key : String} {value : α} {e : String × α}
    (h : e ∈ (table.insert key value).entries) : e = (key, value) ∨ e ∈ table.entries :=
  eq_or_mem_of_mem_insertEntry h

theorem get?_insert (table : KeyTable α) (key k : String) (value : α) :
    (table.insert key value).get? k = if key = k then some value else table.get? k := by
  rw [get?, insert, find?_insertEntry]
  split
  · rfl
  · rfl

/-- What is under a key is in the table. -/
theorem mem_of_get?_eq_some {table : KeyTable α} {k : String} {value : α}
    (h : table.get? k = some value) : (k, value) ∈ table.entries := by
  obtain ⟨e, he, rfl⟩ := Option.map_eq_some_iff.1 h
  have hkey : e.1 = k := by simpa using List.find?_some he
  rw [← hkey]
  exact List.mem_of_find?_eq_some he

/-- How many keys there are. -/
def size (table : KeyTable α) : Nat :=
  table.entries.length

/-- The table with the given entries; of two with one key the later counts. -/
def ofList (entries : List (String × α)) : KeyTable α :=
  entries.foldl (fun table e => table.insert e.1 e.2) ∅

end KeyTable

end VerseQuery
