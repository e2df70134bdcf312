/-
# Ranges of code points in bytes

In UTF-8 a code point is a row of one to four bytes.  A range of code points falls into pieces, each
of which is all rows that take their bytes from given ranges, one for each place.

A piece holds code points that have rows of one length, and where two of its rows differ in a byte,
all bytes can stand in the places behind.  So a range is cut at the code points where rows become
longer, and then at the multiples of 64, of 64² and of 64³ that are nearest to its ends.
-/
import VerseQuery.Text.Ranges

namespace VerseQuery.Text

/-- All bytes from one to another. -/
structure ByteRange where
  low : UInt8
  high : UInt8
  deriving DecidableEq, Repr

namespace ByteRange

/-- The bytes of the code point. -/
def encode (n : Nat) : List UInt8 :=
  String.utf8EncodeChar (Char.ofNat n)

/-- The code points that are characters with rows of one length. -/
def sections : Ranges :=
  [(0, 0x7F), (0x80, 0x7FF), (0x800, 0xD7FF), (0xE000, 0xFFFF), (0x10000, 0x10FFFF)]

/-- How many code points differ in the last byte only, in the last two and in the last three. -/
def blockSizes : List Nat := [64, 64 * 64, 64 * 64 * 64]

/-- The pieces of a range, cut at the multiples of the given sizes. -/
def pieces : List Nat → Nat → Nat → Ranges
  | [], first, last => [(first, last)]
  | size :: sizes, first, last =>
    if first / size = last / size then [(first, last)]
    else
      let start := (first + size - 1) / size * size
      let stop := (last + 1) / size * size
      (if first < start then [(first, start - 1)] else []) ++
        (if start < stop then pieces sizes start (stop - 1) else []) ++
        (if stop ≤ last then [(stop, last)] else [])

/-- The row of byte ranges for a piece. -/
def row (first last : Nat) : List ByteRange :=
  List.zipWith ByteRange.mk (encode first) (encode last)

/-- The rows for the code points from one to another that lie in the section. -/
def sectionRows (first last : Nat) (bounds : Nat × Nat) : List (List ByteRange) :=
  let first := max first bounds.1
  let last := min last bounds.2
  if last < first then []
  else if last < 0x80 then [row first last]
  else (pieces blockSizes first last).map fun piece => row piece.1 piece.2

end ByteRange

/-- The rows of byte ranges for the set, in rising order. -/
def Ranges.byteRows (rs : Ranges) : List (List ByteRange) :=
  rs.flatMap fun r => ByteRange.sections.flatMap (ByteRange.sectionRows r.1 r.2)

end VerseQuery.Text
