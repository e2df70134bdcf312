/-
# Reading JSON

A value is read from its tokens.  Each step of the reader takes a token, so as many steps as there
are tokens are enough.
-/
import VerseQuery.Json.Token

namespace VerseQuery.Json

open JsonToken

mutual

/-- The value at the front of the tokens, and the rest, in at most `fuel` steps. -/
def valueOf? : Nat → List JsonToken → Option (Json × List JsonToken)
  | _, scalar v :: rest => some (v, rest)
  | _, openArray :: closeArray :: rest => some (array [], rest)
  | _, openObject :: closeObject :: rest => some (object [], rest)
  | fuel + 1, openArray :: rest => (itemsOf? fuel rest).map fun (vs, rest) => (array vs, rest)
  | fuel + 1, openObject :: rest => (membersOf? fuel rest).map fun (ms, rest) => (object ms, rest)
  | _, _ => none

/-- The items of an array up to its end. -/
def itemsOf? : Nat → List JsonToken → Option (List Json × List JsonToken)
  | 0, _ => none
  | fuel + 1, tokens =>
    match valueOf? fuel tokens with
    | some (v, closeArray :: rest) => some ([v], rest)
    | some (v, comma :: rest) => (itemsOf? fuel rest).map fun (vs, rest) => (v :: vs, rest)
    | _ => none

/-- The members of an object up to its end. -/
def membersOf? : Nat → List JsonToken → Option (List (JsonText × Json) × List JsonToken)
  | fuel + 1, scalar (text name) :: colon :: tokens =>
    match valueOf? fuel tokens with
    | some (v, closeObject :: rest) => some ([(name, v)], rest)
    | some (v, comma :: rest) =>
      (membersOf? fuel rest).map fun (ms, rest) => ((name, v) :: ms, rest)
    | _ => none
  | _, _ => none

end

/-- The value that the text writes, if it writes one and nothing else. -/
def read? (s : String) : Option Json :=
  match scan? s.toList with
  | none => none
  | some tokens =>
    match valueOf? (2 * tokens.length) tokens with
    | some (v, []) => some v
    | _ => none

end VerseQuery.Json
