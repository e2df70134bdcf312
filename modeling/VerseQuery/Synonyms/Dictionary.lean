/-
# Synonym dictionaries

A dictionary has groups of terms that stand for each other, and entries that lead from one term to
others but not back.  Terms are kept and looked up in their normal form.
-/
import VerseQuery.Synonyms.Service
import VerseQuery.Text.LowerCase

namespace VerseQuery

open Text

structure Dictionary where
  /-- Groups of terms that stand for each other, in the order in which they were added. -/
  groups : List (List String) := []
  /-- The terms that a term leads to. -/
  entries : KeyTable (List String) := ∅
  deriving DecidableEq, Inhabited

namespace Dictionary

/-- The normal forms of the terms, in order, without blank ones and without those already in
`known`. -/
def newTerms (known : List String) (terms : List String) : List String :=
  terms.foldl
    (fun known term =>
      let term := normal term
      if term == "" || known.contains term then known else known ++ [term])
    known

/-- The dictionary with a group of terms that stand for each other.  A group of one says
nothing, and is left out. -/
def addGroup (d : Dictionary) (terms : List String) : Dictionary :=
  let group := newTerms [] terms
  if 1 < group.length then { d with groups := d.groups ++ [group] } else d

/-- The dictionary with an entry that leads from the source to the targets too. -/
def addEntry (d : Dictionary) (source : String) (targets : List String) : Dictionary :=
  let key := normal source
  { d with entries := d.entries.insert key (newTerms ((d.entries.get? key).getD []) targets) }

/-- The terms that the dictionary names next to a term in normal form: its groups, and then its
entry. -/
def related (d : Dictionary) (term : String) : List String :=
  (d.groups.filter (·.contains term)).flatten ++ (d.entries.get? term).getD []

/-- Goes through the candidates, and adds to what was found those that are neither the term nor
found already, until there are as many as the limit. -/
def gather (term : String) (limit : Nat) (found : List String) : List String → List String
  | [] => found
  | candidate :: rest =>
    if limit ≤ found.length then found
    else if candidate != term && !found.contains candidate then
      gather term limit (found ++ [candidate]) rest
    else gather term limit found rest

/-- At most `limit` synonyms of the term, each once and never the term itself. -/
def synonyms (d : Dictionary) (term : String) (limit : Nat) : List String :=
  gather (normal term) limit [] (d.related (normal term))

/-- How many groups and entries there are. -/
def groupCount (d : Dictionary) : Nat :=
  d.groups.length + d.entries.size

/-- The dictionary with the given groups and entries, each group being a term and its equals. -/
def ofTables (groups entries : KeyTable (List String)) : Dictionary :=
  let grouped := groups.entries.foldl (fun d e => d.addGroup (e.1 :: e.2)) {}
  entries.entries.foldl (fun d e => d.addEntry e.1 e.2) grouped

/-- The dictionary as a synonym service, which never fails. -/
def service (d : Dictionary) : Service :=
  fun _ call => .ok (d.synonyms call.word call.limit)

end Dictionary

end VerseQuery
