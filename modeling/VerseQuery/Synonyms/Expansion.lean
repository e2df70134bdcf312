/-
# Synonym expansions

The synonyms found for the words of a text, word by word, and the list of alternatives that they
make up.
-/
import VerseQuery.Text.Blank

namespace VerseQuery

open Text

/-- The synonyms found for one word. -/
structure SynonymSet where
  word : String
  synonyms : List String
  deriving DecidableEq, Repr

/-- The synonyms found for the words of a text, in the order of the words. -/
structure Expansion where
  sets : List SynonymSet := []
  deriving DecidableEq, Repr, Inhabited

/-- The list without later copies of what it has already. -/
def firstSeen (xs : List String) : List String :=
  xs.foldl (fun seen x => if seen.contains x then seen else seen ++ [x]) []

namespace Expansion

/-- The expansion with one more word. -/
def insert (e : Expansion) (word : String) (synonyms : List String) : Expansion :=
  ⟨e.sets ++ [⟨word, synonyms⟩]⟩

/-- Whether no word has a synonym. -/
def isEmpty (e : Expansion) : Bool :=
  e.sets.all (·.synonyms.isEmpty)

/-- What the words contribute, each at most `limit` synonyms: trimmed, without blank ones and
without the text itself. -/
def candidates (e : Expansion) (limit : Nat) (text : String) : List String :=
  (e.sets.flatMap fun set => (set.synonyms.take limit).map trim).filter
    fun synonym => synonym != "" && synonym != text

/-- The alternatives to the text, each of them once, in the order of the words. -/
def flatten (e : Expansion) (limit : Nat) (text : String) : List String :=
  firstSeen (e.candidates limit text)

end Expansion

end VerseQuery
