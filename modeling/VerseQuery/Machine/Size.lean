/-
# The size of machines

A machine reads a text byte by byte.  It is made of states, each of which takes 32 bytes; a state
with several transitions takes 8 more for each, and a state that splits takes 4 more for each way it
leads on.  For a form there are two machines, one that reads forwards and one that reads backwards,
and both have to be within the limit (`Form.fits`).

The size of a machine is the sum of what its parts take.  A loop ends in the state that splits, so
whatever comes behind a loop costs one more way on.
-/
import VerseQuery.Machine.ByteTree
import VerseQuery.Machine.Literal

namespace VerseQuery

open Text

/-- The way in which a machine reads. -/
inductive Direction where
  | forwards
  | backwards
  deriving DecidableEq, Repr

namespace Direction

/-- The rows in the order in which they are read. -/
def order {α : Type} : Direction → List α → List α
  | forwards, xs => xs
  | backwards, xs => xs.reverse

/-- The condition that is true of the place where reading begins only. -/
def origin : Direction → Anchor
  | forwards => .textStart
  | backwards => .textEnd

end Direction

namespace Machine

/-! ## 1. States -/

/-- What a state takes by itself. -/
def state : Nat := 32

/-- What a way on takes in a state that splits. -/
def link : Nat := 4

/-- What a transition takes in a state that has several. -/
def transition : Nat := 8

/-- A state with so many transitions to be looked up. -/
def lookup (n : Nat) : Nat :=
  state + n * transition

/-- A state that leads on in so many ways. -/
def split (n : Nat) : Nat :=
  state + n * link

/-! ## 2. Sets of characters -/

/-- What a set of ASCII characters takes: one state that looks them up and one behind it. -/
def asciiSize (rs : Ranges) : Nat :=
  lookup rs.length + state

/-- What the tree of byte ranges takes.  Backwards, the machine splits into one way for each row,
and rows that begin alike share the states for their beginnings, which are read last.

It is assumed that all the states that can be shared are shared.  A compiler of machines that keeps
only a bounded record of those it has made may make some of them again; its machine is larger by
these, and this is a lower bound for it. -/
def treeSize (tree : ByteTree) : Direction → Nat
  | .forwards => tree.places.foldr (fun place bytes => lookup place.degree + bytes) 0 + state
  | .backwards => split tree.rowCount + tree.edgeCount * state + state

/-- What a set takes. -/
def setSize (d : Direction) (rs : Ranges) : Nat :=
  if rs.all (·.2 < 0x80) then asciiSize rs else treeSize (ByteTree.ofRows rs.byteRows) d

/-! ## 3. Choices between texts -/

/-- The rows in runs, which end where a row is empty. -/
def runs : List (List UInt8) → List (List (List UInt8))
  | [] => [[]]
  | [] :: rows => [] :: runs rows
  | row :: rows =>
    match runs rows with
    | [] => [[row]]
    | run :: rest => (row :: run) :: rest

/-- The rows with empty ones in front counted as one. -/
def dropRepeated (rows : List (List UInt8)) : List (List UInt8) :=
  if rows.head?.any (·.isEmpty) then [] :: rows.dropWhile (·.isEmpty) else rows

/-- The bytes that begin a row, each once. -/
def firstBytes (rows : List (List UInt8)) : List UInt8 :=
  (rows.filterMap List.head?).eraseDups

/-- What is behind the byte in the rows that begin with it. -/
def behind (b : UInt8) (rows : List (List UInt8)) : List (List UInt8) :=
  rows.filterMap fun
    | [] => none
    | c :: row => if c = b then some row else none

/-- What a byte that several rows may go on with takes; a single one needs no looking up. -/
def branching : Nat → Nat
  | 0 => 0
  | 1 => state
  | n => lookup n

/-- What the rows take if they share their beginnings, none being longer than `fuel`.  Where a row
ends before others do, the machine splits, for rows in front are preferred. -/
def sharedSize : (fuel : Nat) → List (List UInt8) → Nat
  | 0, _ => 0
  | fuel + 1, rows =>
    if rows.all (·.isEmpty) then 0
    else
      let runs := runs (dropRepeated rows)
      split (runs.length - 1 + runs.countP (!·.isEmpty)) +
        runs.foldr (fun run bytes =>
          branching (firstBytes run).length +
            (firstBytes run).foldr (fun b bytes => sharedSize fuel (behind b run) + bytes) 0 +
            bytes) 0

/-- What a choice between the texts takes. -/
def textsSize (d : Direction) (rows : List (List UInt8)) : Nat :=
  sharedSize (rows.flatten.length + 1) (rows.map d.order) + state

end Machine

/-! ## 4. Forms -/

namespace Form

open Machine

/-- The bytes of the form, if it is a text. -/
def bytes? : Form → Option (List UInt8)
  | text cs => some (cs.flatMap String.utf8EncodeChar)
  | _ => none

/-- Whether the form is taken again and again without a bound. -/
def isLoop : Form → Bool
  | repeated .star _ => true
  | repeated .plus _ => true
  | _ => false

def parts : Form → List Form
  | row fs => fs
  | f => [f]

/-- What a way from the end of the form takes, which is nothing unless a loop ends there. -/
def exit (d : Direction) (f : Form) : Nat :=
  if (d.order f.parts).getLast?.any isLoop then link else 0

/-- What a repetition takes, where its body takes `body` and has an exit of `exit`. -/
def repeatedSize (body exit : Nat) : Repetition → Nat
  | .optional => split 2 + body + exit + state
  | .star => split 1 + body + exit
  | .plus => split 1 + body + exit
  | .upTo bound => bound * (split 2 + body + exit) + 2 * state

mutual

/-- What the states for the form take.  The ways between the parts of a row are counted with it, but
not the one from its end. -/
def size (d : Direction) : Form → Nat
  | empty => state
  | text cs => (cs.flatMap String.utf8EncodeChar).length * state
  | set rs => setSize d rs
  | place _ => state
  | repeated times body => repeatedSize (body.size d) (body.exit d) times
  | row fs => totalSize d fs + (d.order fs).dropLast.countP isLoop * link
  | choice fs =>
    match fs.mapM bytes? with
    | some rows => textsSize d rows
    | none =>
      totalSize d fs + fs.foldr (fun f bytes => exit d f + bytes) 0 + split fs.length + state

/-- What the states for all the forms take. -/
def totalSize (d : Direction) : List Form → Nat
  | [] => 0
  | f :: fs => f.size d + totalSize d fs

end

/-! ## 5. Machines -/

/-- Whether a match can only begin where reading begins. -/
def isAnchored (d : Direction) (f : Form) : Bool :=
  match (d.order f.parts).head? with
  | some (place a) => a == d.origin
  | _ => false

/-- What the beginning of the machine takes: a loop over any bytes in front of a match, unless there
can be none. -/
def startSize (d : Direction) (f : Form) : Nat :=
  if f.isAnchored d then state else split 2 + lookup 1 + state

/-- What the machine takes for the limits of a match.  Only the machine that reads forwards keeps
both. -/
def matchSize : Direction → Nat
  | .forwards => 3 * state
  | .backwards => state

/-- The bytes that the machine takes. -/
def machineSize (d : Direction) (f : Form) : Nat :=
  f.startSize d + f.size d + f.exit d + matchSize d

/-- Whether a search for the form can do with so many bytes. -/
def fits (limit : Nat) (f : Form) : Bool :=
  f.isTextSearch || (f.machineSize .forwards ≤ limit && f.machineSize .backwards ≤ limit)

end Form

end VerseQuery
