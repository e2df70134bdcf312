/-
# Sets of code points

A set of code points is a list of ranges in rising order, both ends included, with a gap between any
two.  Ranges that touch or overlap become one when they are put together.
-/

namespace VerseQuery.Text

/-- A set of code points, as ranges in rising order. -/
abbrev Ranges := List (Nat × Nat)

namespace Ranges

/-- The largest code point. -/
def maxCode : Nat := 0x10FFFF

/-- How many code points there are in the set. -/
def count (rs : Ranges) : Nat :=
  rs.foldr (fun r n => r.2 + 1 - r.1 + n) 0

/-- The code points of the set, in rising order. -/
def codes (rs : Ranges) : List Nat :=
  rs.flatMap fun r => (List.range (r.2 + 1 - r.1)).map (r.1 + ·)

/-- The set with all code points from `first` to `last` in it. -/
def insert (first last : Nat) : Ranges → Ranges
  | [] => [(first, last)]
  | (a, b) :: rest =>
    if b + 1 < first then (a, b) :: insert first last rest
    else if last + 1 < a then (first, last) :: (a, b) :: rest
    else insert (min a first) (max b last) rest

/-- The set of all that is in one of the two. -/
def union (rs ss : Ranges) : Ranges :=
  rs.foldr (fun r ss => ss.insert r.1 r.2) ss

/-- The code points from `n` on that are not in the set. -/
def complementFrom (n : Nat) : Ranges → Ranges
  | [] => if n ≤ maxCode then [(n, maxCode)] else []
  | (a, b) :: rest =>
    if n < a then (n, a - 1) :: complementFrom (b + 1) rest else complementFrom (b + 1) rest

def complement (rs : Ranges) : Ranges :=
  rs.complementFrom 0

end Ranges

end VerseQuery.Text
