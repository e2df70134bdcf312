/-
# Sorted tables of code points

A table of a character property is a list of blocks in rising order.  Each block knows the last
code point its entries reach, so a look-up passes over whole blocks before it reads entries.
-/

namespace VerseQuery.Text

/-- A stretch of a sorted table: its entries, and the last code point that they reach. -/
structure CodeBlock (α : Type) where
  last : Nat
  entries : List α

namespace CodeBlock

variable {α : Type}

/-- The entries of the first block that reaches the code point. -/
def entriesAt (n : Nat) : List (CodeBlock α) → List α
  | [] => []
  | b :: rest => if b.last < n then entriesAt n rest else b.entries

/-- Whether the code point lies in one of the ranges of the table, both ends included. -/
def covers (table : List (CodeBlock (Nat × Nat))) (n : Nat) : Bool :=
  (entriesAt n table).any fun range => range.1 ≤ n && n ≤ range.2

end CodeBlock

/-- A run of code points that a mapping moves by one distance: every `step`-th code point from
`first` to `last`, the first of them going to `image`. -/
structure CaseRun where
  first : Nat
  last : Nat
  step : Nat
  image : Nat

namespace CaseRun

/-- Whether the run moves the code point. -/
def moves (run : CaseRun) (n : Nat) : Bool :=
  run.first ≤ n && n ≤ run.last && (n - run.first) % run.step == 0

/-- Where a code point of the run goes. -/
def apply (run : CaseRun) (n : Nat) : Nat :=
  run.image + (n - run.first)

/-- The mapping given by a table: a code point that no run moves stays where it is. -/
def mapChar (table : List (CodeBlock CaseRun)) (c : Char) : Char :=
  match (CodeBlock.entriesAt c.toNat table).find? (·.moves c.toNat) with
  | some run => Char.ofNat (run.apply c.toNat)
  | none => c

end CaseRun

end VerseQuery.Text
