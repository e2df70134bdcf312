/-
# Decoding JSON

What a value has to look like to be read as a value of a simple type, and how records are taken
apart.  A record is written as an object; some may also be written as an array of their fields.
-/
import VerseQuery.Json.Basic
import VerseQuery.KeyTable

namespace VerseQuery.Json

/-! ## 1. Simple types -/

def asBool? : Json → Option Bool
  | bool b => some b
  | _ => none

def asString? : Json → Option String
  | text t => t
  | _ => none

/-- An integer from `low` up to `high`, both included. -/
def asInt? (low high : Int) : Json → Option Int
  | number (.integer n) => if low ≤ n ∧ n ≤ high then some n else none
  | _ => none

def asUInt8? (j : Json) : Option UInt8 :=
  (j.asInt? 0 (UInt8.size - 1)).map fun n => UInt8.ofNat n.toNat

def asUInt64? (j : Json) : Option UInt64 :=
  (j.asInt? 0 (UInt64.size - 1)).map fun n => UInt64.ofNat n.toNat

def asInt64? (j : Json) : Option Int64 :=
  (j.asInt? Int64.minValue.toInt Int64.maxValue.toInt).map Int64.ofInt

/-- Null, or a value of the type. -/
def asOption? {α : Type} (decode : Json → Option α) : Json → Option (Option α)
  | null => some none
  | j => (decode j).map some

def asList? {α : Type} (decode : Json → Option α) : Json → Option (List α)
  | array items => items.mapM decode
  | _ => none

def asStrings? : Json → Option (List String) :=
  asList? asString?

/-- An entry of a table: a member with a name and a value of the type. -/
def namedValue? {α : Type} (decode : Json → Option α) (m : JsonText × Json) :
    Option (String × α) := do
  return (← m.1, ← decode m.2)

/-- An object of any names, of two members with one name the later counting. -/
def asTable? {α : Type} (decode : Json → Option α) : Json → Option (KeyTable α)
  | object members => (members.mapM (namedValue? decode)).map KeyTable.ofList
  | _ => none

/-- One of the given values by its name, or an object with the name as its only member, which
holds what `isUnit` allows: by itself a name has nothing to hold. -/
def asNamed? {α : Type} (isUnit : Json → Bool) (name : α → String) (values : List α) :
    Json → Option α
  | text (some s) => values.find? (name · == s)
  | object [(some s, payload)] => if isUnit payload then values.find? (name · == s) else none
  | _ => none

/-- What a name may hold. -/
def isNull : Json → Bool
  | null => true
  | _ => false

/-! ## 2. Records -/

/-- The value of the first member of that name. -/
def find? (name : String) (members : List (JsonText × Json)) : Option Json :=
  (members.find? (·.1 == some name)).map (·.2)

/-- Whether every member has a name, and no known name occurs twice. -/
def areDistinct (known : List String) (members : List (JsonText × Json)) : Bool :=
  members.all (·.1.isSome) &&
    known.all fun name => (members.countP (·.1 == some name)) ≤ 1

/-- The value of a field that may be missing. -/
def field {α : Type} (members : List (JsonText × Json)) (name : String) (default : α)
    (decode : Json → Option α) : Option α :=
  match find? name members with
  | none => some default
  | some j => decode j

/-- The value of a field that must be there. -/
def required {α : Type} (members : List (JsonText × Json)) (name : String)
    (decode : Json → Option α) : Option α :=
  (find? name members).bind decode

/-- The members of a record with the given fields.  Written as an array, it has its fields in
order, and the last of them may be missing. -/
def asRecord? (fields : List String) : Json → Option (List (JsonText × Json))
  | object members => if areDistinct fields members then some members else none
  | array items =>
    if items.length ≤ fields.length then some ((fields.map some).zip items) else none
  | _ => none

end VerseQuery.Json
