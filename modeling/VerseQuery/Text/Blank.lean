/-
# White space, trimming and words

A character is blank when it has the Unicode property White_Space.  Everything the library reads
from a user is trimmed of blanks at both ends, and a text is cut into words at its blanks.
-/

namespace VerseQuery.Text

/-- The code points with the property White_Space. -/
def isBlank (c : Char) : Bool :=
  let n := c.toNat
  (9 ≤ n && n ≤ 13) || n == 0x20 || n == 0x85 || n == 0xA0 || n == 0x1680 ||
    (0x2000 ≤ n && n ≤ 0x200A) || n == 0x2028 || n == 0x2029 || n == 0x202F || n == 0x205F ||
    n == 0x3000

/-- The characters without the blanks at either end. -/
def trimChars (cs : List Char) : List Char :=
  ((cs.dropWhile isBlank).reverse.dropWhile isBlank).reverse

/-- The text without the blanks at either end. -/
def trim (s : String) : String :=
  String.ofList (trimChars s.toList)

/-- A text is blank when trimming leaves nothing of it. -/
def isBlankText (s : String) : Bool :=
  s.toList.all isBlank

/-- The words of a text that is being read from its end: the word that begins where reading stands,
empty if none does, and the words after it. -/
structure WordCut where
  opened : List Char
  closed : List (List Char)

namespace WordCut

/-- All the words found, the open one first. -/
def all (cut : WordCut) : List (List Char) :=
  if cut.opened.isEmpty then cut.closed else cut.opened :: cut.closed

/-- A blank ends the open word; any other character is put in front of it. -/
def push (c : Char) (cut : WordCut) : WordCut :=
  if isBlank c then ⟨[], cut.all⟩ else ⟨c :: cut.opened, cut.closed⟩

end WordCut

/-- The words of a text: its longest runs of characters that are not blank, in order. -/
def words (s : String) : List String :=
  (s.toList.foldr WordCut.push ⟨[], []⟩).all.map String.ofList

end VerseQuery.Text
