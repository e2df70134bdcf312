/-
# Building TOML tables

A document fills its tables line by line, and each table may be defined only once.  How a table
came to be decides what may still be done to it:

* one with a **header** of its own may not get a header again, nor be reached by a dotted key;
* one **implied** by the header of a table in it may still get its own header;
* one made by a **dotted** key is filled by dotted keys only.
-/
import VerseQuery.Toml.Basic

namespace VerseQuery.Toml

/-- How a table came to be. -/
inductive TableOrigin where
  | header
  | implied
  | dotted
  deriving DecidableEq, Repr

/-- A part of a document that is being read. -/
inductive Draft where
  /-- A value that is complete. -/
  | value (value : Toml)
  | table (origin : TableOrigin) (entries : List (String × Draft))
  /-- A row of tables with one header, the latest first. -/
  | rows (latest : List (String × Draft)) (earlier : List (List (String × Draft)))

/-- A table that is being filled. -/
structure DraftTable where
  origin : TableOrigin
  entries : List (String × Draft)

namespace DraftTable

def get? (t : DraftTable) (key : String) : Option Draft :=
  (t.entries.find? (·.1 == key)).map (·.2)

/-- The table with the entry in place of one with the same key, or else at its end. -/
def set (t : DraftTable) (key : String) (d : Draft) : DraftTable :=
  if (t.get? key).isSome then
    ⟨t.origin, t.entries.map fun e => if e.1 == key then (key, d) else e⟩
  else ⟨t.origin, t.entries ++ [(key, d)]⟩

def draft (t : DraftTable) : Draft := .table t.origin t.entries

/-- Edits the table at the end of the path.  Tables that are missing on the way are made, by a
dotted key or by a header, and a dotted key may not pass through a table with a header. -/
def editAt? (dotted : Bool) (edit : DraftTable → Option DraftTable) :
    List String → DraftTable → Option DraftTable
  | [], t => edit t
  | key :: path, t =>
    match t.get? key with
    | none =>
      let fresh : DraftTable := ⟨if dotted then .dotted else .implied, []⟩
      (editAt? dotted edit path fresh).map fun inner => t.set key inner.draft
    | some (.value _) => none
    | some (.rows latest earlier) =>
      (editAt? dotted edit path ⟨.header, latest⟩).map fun inner =>
        t.set key (.rows inner.entries earlier)
    | some (.table origin entries) =>
      if dotted && origin == .header then none
      else
        (editAt? dotted edit path ⟨origin, entries⟩).map fun inner => t.set key inner.draft

/-- Splits off the last part of a key. -/
def splitKey? (key : List String) : Option (List String × String) :=
  key.getLast?.map fun last => (key.dropLast, last)

/-- The table with a value under the key.  The key must be new, and a dotted key must not end in a
table that came to be in another way. -/
def insert? (t : DraftTable) (key : List String) (value : Toml) : Option DraftTable := do
  let (path, last) ← splitKey? key
  let put (inner : DraftTable) : Option DraftTable :=
    if (inner.origin == .dotted) == path.isEmpty || (inner.get? last).isSome then none
    else some (inner.set last (.value value))
  editAt? true put path t

/-- The table after the header of a table. -/
def openTable? (t : DraftTable) (key : List String) : Option DraftTable := do
  let (path, last) ← splitKey? key
  let put (inner : DraftTable) : Option DraftTable :=
    match inner.get? last with
    | none => some (inner.set last (.table .header []))
    | some (.table .implied entries) => some (inner.set last (.table .header entries))
    | _ => none
  editAt? false put path t

/-- The table after the header of one more table of a row. -/
def openRow? (t : DraftTable) (key : List String) : Option DraftTable := do
  let (path, last) ← splitKey? key
  let put (inner : DraftTable) : Option DraftTable :=
    match inner.get? last with
    | none => some (inner.set last (.rows [] []))
    | some (.rows latest earlier) => some (inner.set last (.rows [] (latest :: earlier)))
    | _ => none
  editAt? false put path t

end DraftTable

/-! ## Finished tables -/

mutual

def Draft.finish : Draft → Toml
  | .value v => v
  | .table _ entries => .table (finishEntries entries)
  | .rows latest earlier => .array (finishRows earlier ++ [.table (finishEntries latest)])

def finishEntries : List (String × Draft) → List (String × Toml)
  | [] => []
  | (key, d) :: entries => (key, d.finish) :: finishEntries entries

/-- The rows in the order of the document. -/
def finishRows : List (List (String × Draft)) → List Toml
  | [] => []
  | row :: earlier => finishRows earlier ++ [.table (finishEntries row)]

end

end VerseQuery.Toml
