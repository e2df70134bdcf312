/-
# The cost of a pattern

A rough measure, from 0 to 100, of the work that a pattern may cause.  It is read off the text of
the pattern: 10 for each quantifier sign, 5 for each opening bracket, 15 for each assertion about
the text ahead, and a tenth for each byte, rounded to the nearest whole number with halves rounded
up.
-/

namespace VerseQuery

/-- At how many places of the text the part stands. -/
def occurrences (part : List Char) : List Char → Nat
  | [] => if part.isEmpty then 1 else 0
  | c :: rest => (if part.isPrefixOf (c :: rest) then 1 else 0) + occurrences part rest

/-- How many bytes the characters take in UTF-8. -/
def byteLength (cs : List Char) : Nat :=
  cs.foldr (fun c bytes => c.utf8Size + bytes) 0

namespace Cost

/-- The signs that say how often something is taken. -/
def isQuantifier (c : Char) : Bool :=
  c == '*' || c == '+' || c == '?'

/-- How many assertions about the text ahead are written in the text. -/
def assertions (cs : List Char) : Nat :=
  occurrences ['(', '?', '='] cs + occurrences ['(', '?', '!'] cs

/-- The cost in tenths, before it is rounded. -/
def tenths (cs : List Char) : Nat :=
  100 * cs.countP isQuantifier + 50 * cs.count '(' + 150 * assertions cs + byteLength cs

end Cost

/-- The cost of a pattern text. -/
def cost (pattern : String) : Nat :=
  min 100 ((Cost.tenths pattern.toList + 5) / 10)

end VerseQuery
