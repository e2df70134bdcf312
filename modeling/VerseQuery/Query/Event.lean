/-
# Events

What the library reports of its work.
-/
import VerseQuery.Query.Volume

namespace VerseQuery

/-- A reason to be careful with a query. -/
inductive Warning where
  /-- It may be slow or have many results. -/
  | broad
  /-- It matches a very large share of the text. -/
  | extreme
  deriving DecidableEq, Repr

/-- What the user is told. -/
def Warning.message : Warning → String
  | broad => "This search may be slow or return many results. Consider narrowing it down."
  | extreme =>
    "This search will match a very large share of the text. " ++
      "Add more specific terms or narrow the scope before running it."

inductive Event where
  /-- A query was compiled. -/
  | compiled (source flags : String) (cost : Nat) (volume : Volume)
  /-- The user is to be warned of the query. -/
  | warned (warning : Warning) (cost : Nat) (volume : Volume)
  /-- The synonym service returned more than it was asked for. -/
  | truncated (word : String) (returned limit : Nat)
  /-- Synonyms were found for a word. -/
  | resolved (word : String) (count : Nat)
  deriving DecidableEq, Repr

inductive EventLevel where
  | debug
  | warn
  deriving DecidableEq, Repr

namespace Event

def level : Event → EventLevel
  | compiled .. => .debug
  | warned .. => .warn
  | truncated .. => .warn
  | resolved .. => .debug

def message : Event → String
  | compiled .. => "Compiled search query"
  | warned warning .. => warning.message
  | truncated .. => "Synonym service exceeded limit, truncating"
  | resolved .. => "Resolved synonyms"

end Event

end VerseQuery
