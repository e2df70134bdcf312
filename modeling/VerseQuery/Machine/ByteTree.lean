/-
# Trees of byte ranges

The rows of byte ranges for a set of characters are kept in a tree, in which rows that begin alike
share their beginning.  A machine that reads forwards has a state for each branching of the tree,
those that are the same counted once; one that reads backwards has a state for each edge.
-/
import VerseQuery.Text.ByteRows

namespace VerseQuery

open Text

/-- The edges at one place, each with what is below it.  Where a row ends there is no edge. -/
inductive ByteTree where
  | leaf
  | edge (range : ByteRange) (below : ByteTree) (beside : ByteTree)
  deriving DecidableEq, Repr

namespace ByteTree

/-- The tree that holds a single row. -/
def path : List ByteRange → ByteTree
  | [] => leaf
  | range :: row => edge range (path row) leaf

/-- The tree with one more row in it. -/
def insert : List ByteRange → ByteTree → ByteTree
  | [], tree => tree
  | range :: row, leaf => path (range :: row)
  | range :: row, edge other below beside =>
    if range = other then edge other (below.insert row) beside
    else edge other below (beside.insert (range :: row))

def ofRows (rows : List (List ByteRange)) : ByteTree :=
  rows.foldl (fun tree row => tree.insert row) leaf

/-- How many edges there are at the first place. -/
def degree : ByteTree → Nat
  | leaf => 0
  | edge _ _ beside => beside.degree + 1

def edgeCount : ByteTree → Nat
  | leaf => 0
  | edge _ below beside => below.edgeCount + beside.edgeCount + 1

/-- How many rows there are. -/
def rowCount : ByteTree → Nat
  | leaf => 0
  | edge _ leaf beside => beside.rowCount + 1
  | edge _ below beside => below.rowCount + beside.rowCount

/-- The places below the first one where there are edges. -/
def lowerPlaces : ByteTree → List ByteTree
  | leaf => []
  | edge _ leaf beside => beside.lowerPlaces
  | edge _ below beside => below :: (below.lowerPlaces ++ beside.lowerPlaces)

/-- The places that differ in what can follow. -/
def places (tree : ByteTree) : List ByteTree :=
  (tree :: tree.lowerPlaces).eraseDups

end ByteTree

end VerseQuery
