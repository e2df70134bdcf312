/-
# TOML values

A value keeps what its readers need: a fraction and a date are known to be there, but what they say
is of no use to this library.
-/

namespace VerseQuery

inductive Toml where
  | string (value : String)
  | integer (value : Int)
  | fraction
  | bool (value : Bool)
  | date
  | array (items : List Toml)
  | table (entries : List (String × Toml))
  deriving Repr, Inhabited

end VerseQuery
