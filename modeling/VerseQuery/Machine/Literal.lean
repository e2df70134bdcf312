/-
# Searching for texts instead

Where a pattern matches only a few texts, looking for these texts is all that a search takes, and no
machine is made.  The texts are gathered as byte strings.  Gathering is given up where there would be
too many, and a string that would be too long is cut off: it is then only the beginning of a match.

A list of strings is of use if none is empty, and if it is short enough or can be made so by cutting
strings off.  Cutting costs the knowledge of where a match ends, so a list for which that is the
better way leaves the rest of the match to a machine (`Form.isTextSearch`).
-/
import VerseQuery.Machine.Form
import VerseQuery.Text.ByteRows

namespace VerseQuery

open Text

/-! ## 1. Literals -/

/-- The bytes that a match begins with. -/
structure Literal where
  bytes : List UInt8
  /-- Whether the match ends behind them. -/
  whole : Bool
  deriving DecidableEq, Repr

namespace Literal

/-- The match of nothing. -/
def nothing : Literal := ⟨[], true⟩

def ofChars (cs : List Char) : Literal := ⟨cs.flatMap String.utf8EncodeChar, true⟩

/-- The beginning alone. -/
def opened (l : Literal) : Literal := { l with whole := false }

/-- At most the first `n` bytes. -/
def cut (n : Nat) (l : Literal) : Literal :=
  if l.bytes.length ≤ n then l else ⟨l.bytes.take n, false⟩

/-- A match and then another one. -/
def append (l m : Literal) : Literal :=
  if l.whole then ⟨l.bytes ++ m.bytes, m.whole⟩ else l

/-- A literal in front of others, made one with the first of them if both have the same bytes. -/
def consMerge (l : Literal) : List Literal → List Literal
  | [] => [l]
  | m :: rest => if l.bytes = m.bytes then ⟨l.bytes, l.whole && m.whole⟩ :: rest else l :: m :: rest

/-- The literals without repetitions side by side. -/
def merge (ls : List Literal) : List Literal :=
  ls.foldr consMerge []

/-- The literals of which none before is a beginning. -/
def minimal (ls : List Literal) : List Literal :=
  ls.foldl (fun kept l =>
    if kept.any fun k => k.bytes.isPrefixOf l.bytes then kept else kept ++ [l]) []

/-- The bytes that both strings begin with. -/
def shared : List UInt8 → List UInt8 → List UInt8
  | a :: as, b :: bs => if a = b then a :: shared as bs else []
  | _, _ => []

/-- The bytes that all the literals begin with. -/
def sharedByAll : List Literal → List UInt8
  | [] => []
  | l :: ls => ls.foldl (fun bytes m => shared bytes m.bytes) l.bytes

/-- How long the shortest literal is. -/
def leastLength (ls : List Literal) : Nat :=
  (ls.map (·.bytes.length)).min?.getD 0

end Literal

/-! ## 2. Gathering -/

/-- The beginnings of all matches, those of preferred matches first, or `none` where any text may
begin one or there are too many. -/
abbrev Literals := Option (List Literal)

namespace Literals

/-- How many characters a set may have to be gathered one by one. -/
def setLimit : Nat := 10

/-- How long a literal may become. -/
def lengthLimit : Nat := 100

/-- How many literals may be gathered. -/
def countLimit : Nat := 250

/-- How long literals stay when there are too many of them for one list. -/
def briefLength : Nat := 4

def opened (ls : Literals) : Literals :=
  ls.map fun ls => ls.map Literal.opened

/-- Whether no literal is known to be a whole match. -/
def isOpen : Literals → Bool
  | none => true
  | some ls => ls.all (!·.whole)

/-- Whether the empty literal is among them. -/
def hasEmpty (ls : List Literal) : Bool :=
  ls.any (·.bytes.isEmpty)

/-- What begins a match of one pattern and then of another. -/
def append (ls ms : Literals) : Literals :=
  match ls, ms with
  | none, _ => none
  | some ls, none => if hasEmpty ls then none else some (ls.map Literal.opened)
  | some ls, some ms =>
    if countLimit < ls.length * ms.length then
      if hasEmpty ls then none else some (ls.map Literal.opened)
    else
      some ((Literal.merge (ls.flatMap fun l =>
        if l.whole then ms.map l.append else [l])).map (·.cut lengthLimit))

/-- What begins a match of either of two patterns. -/
def orElse (ls ms : Literals) : Literals :=
  match ls, ms with
  | some ls, some ms =>
    if ls.length + ms.length ≤ countLimit then some (Literal.merge (ls ++ ms))
    else
      let ls := Literal.merge (ls.map (·.cut briefLength))
      let ms := Literal.merge (ms.map (·.cut briefLength))
      if ls.length + ms.length ≤ countLimit then some (Literal.merge (ls ++ ms)) else none
  | _, _ => none

end Literals

mutual

/-- What begins a match of the form. -/
def Form.literals : Form → Literals
  | .empty => some [.nothing]
  | .place _ => some [.nothing]
  | .text cs => some [(Literal.ofChars cs).cut Literals.lengthLimit]
  | .set rs =>
    if rs.count ≤ Literals.setLimit then
      some (rs.codes.map fun n => ⟨ByteRange.encode n, true⟩)
    else none
  | .repeated .optional body => body.literals.orElse (some [.nothing])
  | .repeated .plus body => body.literals.opened
  | .repeated _ body => body.literals.opened.orElse (some [.nothing])
  | .row parts => Form.rowLiterals (some [.nothing]) parts
  | .choice fs => Form.choiceLiterals (some []) fs

/-- What begins a match of all the parts, behind what is already gathered. -/
def Form.rowLiterals (ls : Literals) : List Form → Literals
  | [] => ls
  | part :: parts => if ls.isOpen then ls else Form.rowLiterals (ls.append part.literals) parts

/-- What begins a match of any of the forms, behind what is already gathered. -/
def Form.choiceLiterals (ls : Literals) : List Form → Literals
  | [] => ls
  | f :: fs => Form.choiceLiterals (ls.orElse f.literals) fs

end

/-! ## 3. Judging -/

namespace Literal

/-- The ASCII characters that are found in most texts. -/
def frequentChars : List Char :=
  "\n\r (),-./0129:_abcdefghilmnoprstuvxy|".toList

/-- Whether a text with the byte at a place is hard to find. -/
def isRare (b : UInt8) : Bool :=
  b < 0x80 && !frequentChars.contains (Char.ofNat b.toNat)

/-- How long literals may stay when there are more of them than the number beside it. -/
def trials : List (Nat × Nat) :=
  [(5, 10), (4, 10), (3, 64), (2, 64), (1, 10)]

/-- The literals cut off until there are few enough. -/
def reduce : List (Nat × Nat) → List Literal → List Literal
  | [], ls => ls
  | (keep, limit) :: rest, ls =>
    if ls.length ≤ limit then ls else reduce rest (minimal (ls.map (cut keep)))

/-- Whether the literals are searched for by their common beginning alone, of at most three bytes
and with a rare one in front. -/
def leansOnFirst (gathered : Nat) (bytes : List UInt8) : Bool :=
  1 < gathered && bytes.length ≤ 3 && bytes.head?.any isRare

/-- Whether the literals are searched for by a longer common beginning. -/
def leansOnShared (ls : List Literal) (bytes : List UInt8) : Bool :=
  4 < bytes.length || (1 < bytes.length && !(ls.all (·.whole) && ls.length ≤ 16))

/-- The literals as they are searched for, before their number is reduced. -/
def chosen (ls : List Literal) : List Literal :=
  let kept := minimal ls
  let bytes := sharedByAll kept
  if leansOnFirst ls.length bytes then kept.map (cut 1)
  else if leansOnShared kept bytes then kept.map (cut bytes.length)
  else kept

/-- Whether cutting the literals off helps so much that it is done. -/
def isReduced (ls : List Literal) : Bool :=
  let reduced := reduce trials ls
  !reduced.all (·.whole) && 2 < leastLength reduced && reduced.length ≤ 64

/-- Whether a search for the literals finds whole matches. -/
def areMatches (ls : List Literal) : Bool :=
  !ls.isEmpty && !Literals.hasEmpty ls && (chosen ls).all (·.whole) && !isReduced (chosen ls)

end Literal

namespace Form

mutual

/-- Whether there is a condition on a place in the form. -/
def hasPlace : Form → Bool
  | .place _ => true
  | .repeated _ body => body.hasPlace
  | .row parts => anyPlace parts
  | .choice fs => anyPlace fs
  | _ => false

/-- Whether there is a condition on a place in one of the forms. -/
def anyPlace : List Form → Bool
  | [] => false
  | f :: fs => f.hasPlace || anyPlace fs

end

def isText : Form → Bool
  | .text _ => true
  | _ => false

/-- From how many texts on a choice between them is not gathered, but taken as it is. -/
def manyTexts : Nat := 3000

/-- Whether the form is a choice between very many texts. -/
def isWordList : Form → Bool
  | .choice fs => manyTexts ≤ fs.length && fs.all isText
  | _ => false

/-- Whether matches of the form are found by looking for texts. -/
def isTextSearch (f : Form) : Bool :=
  !f.hasPlace && (f.literals.any Literal.areMatches || f.isWordList)

end Form

end VerseQuery
