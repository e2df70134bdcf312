/-
# Synonyms in JSON
-/
import VerseQuery.Json.Decode
import VerseQuery.Synonyms.Dictionary

namespace VerseQuery

open Json

namespace SynonymSet

def toJson (set : SynonymSet) : Json :=
  record [("word", string set.word), ("synonyms", strings set.synonyms)]

def ofJson? (j : Json) : Option SynonymSet := do
  let members ← asRecord? ["word", "synonyms"] j
  return {
    word := ← required members "word" asString?
    synonyms := ← required members "synonyms" asStrings? }

end SynonymSet

namespace Expansion

def toJson (e : Expansion) : Json :=
  record [("sets", array (e.sets.map (·.toJson)))]

def ofJson? (j : Json) : Option Expansion := do
  let members ← asRecord? ["sets"] j
  return { sets := ← required members "sets" (asList? SynonymSet.ofJson?) }

end Expansion

namespace Dictionary

def toJson (d : Dictionary) : Json :=
  record [("multi_way", array (d.groups.map strings)),
    ("one_way", record (d.entries.entries.map fun e => (e.1, strings e.2)))]

/-- The terms are taken as they are written. -/
def ofJson? (j : Json) : Option Dictionary := do
  let members ← asRecord? ["multi_way", "one_way"] j
  return {
    groups := ← required members "multi_way" (asList? asStrings?)
    entries := ← required members "one_way" (asTable? asStrings?) }

end Dictionary

end VerseQuery
