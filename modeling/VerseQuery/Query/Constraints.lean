/-
# Words that must and must not occur

Each kept term is searched for as a whole word.  The constraints are held in two forms: as patterns
of their own, which are run over the whole text, and as assertions at the front of the query's
pattern, which say the same of a text without line feeds.
-/
import VerseQuery.Pattern.Matcher
import VerseQuery.Request

namespace VerseQuery

/-- The patterns that must match somewhere, and those that must not. -/
structure Constraints where
  required : List (Pattern .sequence)
  excluded : List (Pattern .sequence)
  deriving Repr

namespace Constraints

/-- The terms that count, as whole words. -/
def wordPatterns (terms : List String) : List (Pattern .sequence) :=
  (keptTerms terms).map fun term => Pattern.wholeWord term.toList

def ofTerms (required excluded : List String) : Constraints :=
  ⟨wordPatterns required, wordPatterns excluded⟩

/-- The assertion that the pattern matches, or does not match, further on in the line. -/
def lookahead (holds : Bool) (p : Pattern .sequence) : Pattern .sequence :=
  .ahead holds (.last (.take .any .star p)) .done

/-- The constraints as assertions, those on required terms first. -/
def lookaheads (cs : Constraints) : Pattern .sequence :=
  Pattern.concat (cs.required.map (lookahead true) ++ cs.excluded.map (lookahead false))

/-- Whether the text keeps the constraints. -/
def hold (mode : CaseMode) (cs : Constraints) (text : List Char) : Bool :=
  cs.required.all (·.matchesText mode text) && !cs.excluded.any (·.matchesText mode text)

end Constraints

end VerseQuery
