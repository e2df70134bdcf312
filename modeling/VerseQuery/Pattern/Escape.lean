/-
# Escaping

A character with a meaning of its own in pattern text is written with a backslash in front of it
when it stands for itself.  All others are written as they are.
-/

namespace VerseQuery

/-- The characters with a meaning of their own. -/
def metaChars : List Char :=
  ['\\', '.', '+', '*', '?', '(', ')', '|', '[', ']', '{', '}', '^', '$', '#', '&', '-', '~']

/-- How a character that stands for itself is written. -/
def escapeChar (c : Char) : List Char :=
  if metaChars.contains c then ['\\', c] else [c]

/-- How characters that stand for themselves are written. -/
def escapeChars (cs : List Char) : List Char :=
  cs.flatMap escapeChar

/-- The text as a pattern that stands for just that text. -/
def escape (s : String) : String :=
  String.ofList (escapeChars s.toList)

end VerseQuery
