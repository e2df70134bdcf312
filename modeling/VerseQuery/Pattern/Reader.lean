/-
# Reading pattern text

Tokens are read from the last to the first.  An element then finds the sequence behind it already
built, and a closing bracket is met before what it closes, so one pass with a stack of open
brackets is enough.
-/
import VerseQuery.Pattern.Printer

namespace VerseQuery.Pattern

/-- A bracket whose inside is being read from its end. -/
structure OpenBracket where
  /-- What its closing bracket carried. -/
  bound : Option Nat
  /-- The alternatives to the right of the one being read. -/
  others : Option (Pattern .choice)
  /-- What has been read of an alternative. -/
  current : Pattern .sequence
  /-- The sequence behind the closing bracket. -/
  behind : Pattern .sequence

/-- Where reading stands: what has been read outside all brackets still open to the left, or else
the brackets around the place, the innermost first. -/
inductive ReadState where
  | outside (current : Pattern .sequence)
  | inside (bracket : OpenBracket) (around : List OpenBracket)

namespace OpenBracket

/-- The choice that the bracket holds once its first alternative is read. -/
def body (b : OpenBracket) : Pattern .choice :=
  match b.others with
  | none => last b.current
  | some others => orElse b.current others

/-- The sequence from the opening bracket on.  A bound belongs to a group only. -/
def opened (b : OpenBracket) : Opening → Option (Pattern .sequence)
  | .group =>
    match b.bound with
    | none => some (group b.body b.behind)
    | some bound => some (upTo bound b.body b.behind)
  | .ahead holds =>
    match b.bound with
    | none => some (ahead holds b.body b.behind)
    | some _ => none

end OpenBracket

namespace ReadState

/-- The sequence that reading stands in front of. -/
def current : ReadState → Pattern .sequence
  | outside p => p
  | inside b _ => b.current

/-- The state with another sequence in that place. -/
def setCurrent (p : Pattern .sequence) : ReadState → ReadState
  | outside _ => outside p
  | inside b around => inside { b with current := p } around

/-- The state with one more token read. -/
def step (state : ReadState) : Token → Option ReadState
  | .take set times => some (state.setCurrent (take set times state.current))
  | .anchor a => some (state.setCurrent (anchor a state.current))
  | .bar =>
    match state with
    | outside _ => none
    | inside b around => some (inside { b with others := some b.body, current := done } around)
  | .close bound =>
    match state with
    | outside p => some (inside ⟨bound, none, done, p⟩ [])
    | inside b around => some (inside ⟨bound, none, done, b.current⟩ (b :: around))
  | .opening o =>
    match state with
    | outside _ => none
    | inside b [] => (b.opened o).map outside
    | inside b (a :: around) =>
      (b.opened o).map fun p => inside { a with current := p } around

end ReadState

/-- Where reading stands once the tokens are read. -/
def readState : List Token → Option ReadState
  | [] => some (.outside done)
  | t :: ts => (readState ts).bind fun state => state.step t

/-- The tree that the tokens spell, if they spell one. -/
def ofTokens? (ts : List Token) : Option (Pattern .sequence) :=
  match readState ts with
  | some (.outside p) => some p
  | _ => none

/-- The tree that the characters spell, if they spell one. -/
def read? (cs : List Char) : Option (Pattern .sequence) :=
  (Token.scan? cs).bind ofTokens?

end VerseQuery.Pattern
