/-
# Writing JSON

Values are written without spaces.  In a string only quotes, backslashes and control characters are
escaped, five of the control characters by a letter and the others by their numbers.
-/
import VerseQuery.Json.Basic

namespace VerseQuery.Json

/-- The four hexadecimal digits of a character number below 65536. -/
def hex4 (n : Nat) : List Char :=
  let digits := Nat.toDigits 16 n
  List.replicate (4 - digits.length) '0' ++ digits

/-- The sign that stands for the character behind a backslash. -/
def shortEscape? : Char → Option Char
  | '"' => some '"'
  | '\\' => some '\\'
  | '\x08' => some 'b'
  | '\x0c' => some 'f'
  | '\n' => some 'n'
  | '\r' => some 'r'
  | '\t' => some 't'
  | _ => none

def writeChar (c : Char) : List Char :=
  match shortEscape? c with
  | some sign => ['\\', sign]
  | none => if c.toNat < 0x20 then '\\' :: 'u' :: hex4 c.toNat else [c]

def writeString (s : String) : String :=
  "\"" ++ String.ofList (s.toList.flatMap writeChar) ++ "\""

example : writeString "\n\x0b\"" = "\"\\n\\u000b\\\"\"" := by decide

/-- A text without a value is written as an empty one. -/
def writeText (t : JsonText) : String :=
  writeString (t.getD "")

mutual

/-- The text of the value.  Only integers among the numbers keep their value. -/
def write : Json → String
  | null => "null"
  | bool true => "true"
  | bool false => "false"
  | number (.integer n) => n.repr
  | number (.real _) => "0.0"
  | text t => writeText t
  | array items => "[" ++ ",".intercalate (writeItems items) ++ "]"
  | object members => "\x7b" ++ ",".intercalate (writeMembers members) ++ "\x7d"

def writeItems : List Json → List String
  | [] => []
  | item :: items => write item :: writeItems items

def writeMembers : List (JsonText × Json) → List String
  | [] => []
  | (name, value) :: members =>
    (writeText name ++ ":" ++ write value) :: writeMembers members

end

end VerseQuery.Json
