/-
# JSON values

A value keeps what a reader of it may need to know: whether a number was written as an integer, the
members of an object in the order of the text with repetitions, and whether a string or a number
can be kept at all.
-/

namespace VerseQuery

/-- A string of JSON.  It is absent when the text names half of a surrogate pair, which stands for
no character. -/
abbrev JsonText := Option String

inductive JsonNumber where
  /-- An integer of 64 bits, signed or not. -/
  | integer (value : Int)
  /-- Any other number; `finite` tells whether it is within the range of a double. -/
  | real (finite : Bool)
  deriving DecidableEq, Repr

inductive Json where
  | null
  | bool (value : Bool)
  | number (value : JsonNumber)
  | text (value : JsonText)
  | array (items : List Json)
  | object (members : List (JsonText × Json))
  deriving Repr, Inhabited

namespace Json

/-! ## 1. Building values -/

def string (s : String) : Json := text (some s)

def int (n : Int) : Json := number (.integer n)

def nat (n : Nat) : Json := int n

def strings (ss : List String) : Json := array (ss.map string)

def record (members : List (String × Json)) : Json :=
  object (members.map fun m => (some m.1, m.2))

/-- Null for none. -/
def ofOption {α : Type} (encode : α → Json) : Option α → Json
  | none => null
  | some a => encode a

/-! ## 2. Walking values -/

mutual

/-- Whether the value can be kept as data: no text or number in it is without a value, and its
arrays and objects are nested at most `room` deep. -/
def isKeepable (room : Nat) : Json → Bool
  | null => true
  | bool _ => true
  | number (.integer _) => true
  | number (.real finite) => finite
  | text value => value.isSome
  | array items => 0 < room && areKeepable (room - 1) items
  | object members => 0 < room && membersKeepable (room - 1) members

def areKeepable (room : Nat) : List Json → Bool
  | [] => true
  | item :: items => item.isKeepable room && areKeepable room items

def membersKeepable (room : Nat) : List (JsonText × Json) → Bool
  | [] => true
  | (name, value) :: members =>
    name.isSome && value.isKeepable room && membersKeepable room members

end

mutual

/-- The value with only the last of the members of one name in each object. -/
def lastOfEach : Json → Json
  | array items => array (lastOfEachItem items)
  | object members => object (lastOfEachMember members)
  | other => other

def lastOfEachItem : List Json → List Json
  | [] => []
  | item :: items => item.lastOfEach :: lastOfEachItem items

def lastOfEachMember : List (JsonText × Json) → List (JsonText × Json)
  | [] => []
  | (name, value) :: members =>
    let later := lastOfEachMember members
    if later.any (·.1 == name) then later else (name, value.lastOfEach) :: later

end

end Json

end VerseQuery
