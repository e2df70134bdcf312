/-
# Reading TOML

A document is read expression by expression: headers, which say which table is filled next, and
keys with their values.
-/
import VerseQuery.Toml.Scalar
import VerseQuery.Toml.Table
import VerseQuery.Toml.Text

namespace VerseQuery.Toml

/-! ## 1. Values -/

mutual

/-- The value at the front of the text, and the rest, in at most `fuel` steps and with at most
`room` levels of nesting. -/
def value? : (fuel room : Nat) → List Char → Option (Toml × List Char)
  | fuel + 1, room + 1, '[' :: rest => items? fuel room [] rest
  | fuel + 1, room + 1, '\x7b' :: rest =>
    match skipSpace rest with
    | '\x7d' :: rest => some (.table [], rest)
    | rest => members? fuel room ⟨.header, []⟩ rest
  | _, _, text =>
    match text with
    | '"' :: _ => (string? text).map fun (cs, rest) => (.string (String.ofList cs), rest)
    | '\'' :: _ => (string? text).map fun (cs, rest) => (.string (String.ofList cs), rest)
    | _ => scalar? text

/-- The items of an array up to its end, behind those already read. -/
def items? : (fuel room : Nat) → List Toml → List Char → Option (Toml × List Char)
  | fuel + 1, room, before, text =>
    match skipLines? false text with
    | some (']' :: rest) => some (.array before.reverse, rest)
    | some text =>
      match value? fuel room text with
      | none => none
      | some (v, rest) =>
        match skipLines? false rest with
        | some (',' :: rest) => items? fuel room (v :: before) rest
        | some (']' :: rest) => some (.array (v :: before).reverse, rest)
        | _ => none
    | none => none
  | 0, _, _, _ => none

/-- The entries of a table within a line up to its end, put into the table. -/
def members? : (fuel room : Nat) → DraftTable → List Char → Option (Toml × List Char)
  | fuel + 1, room, filled, text =>
    match key? text with
    | some (key, '=' :: rest) =>
      match value? fuel room (skipSpace rest) with
      | none => none
      | some (v, rest) =>
        match filled.insert? key v with
        | none => none
        | some filled =>
          match skipSpace rest with
          | ',' :: rest => members? fuel room filled rest
          | '\x7d' :: rest => some (filled.draft.finish, rest)
          | _ => none
    | _ => none
  | 0, _, _, _ => none

end

/-! ## 2. Documents -/

/-- A document that is being read: its top table, and the key of the table that is being filled. -/
structure Reading where
  top : DraftTable
  current : List String

/-- The text after the sign that closes a header, and after the end of its line. -/
def closeHeader? (sign : List Char) (text : List Char) : Option (List Char) :=
  (sign.isPrefixOf? text).bind endLine?

/-- Reads one expression. -/
def expression? (r : Reading) : List Char → Option (Reading × List Char)
  | '[' :: '[' :: text => do
    let (key, text) ← key? text
    let text ← closeHeader? [']', ']'] text
    return (⟨← r.top.openRow? key, key⟩, text)
  | '[' :: text => do
    let (key, text) ← key? text
    let text ← closeHeader? [']'] text
    return (⟨← r.top.openTable? key, key⟩, text)
  | text => do
    let (key, text) ← key? text
    let (v, text) ← value? (2 * text.length + 2) depthLimit (skipSpace (← sign? '=' text))
    let text ← endLine? text
    return (⟨← DraftTable.editAt? false (·.insert? key v) r.current r.top, r.current⟩, text)

/-- Reads at most so many expressions. -/
def expressions? : Nat → Reading → List Char → Option Reading
  | fuel, r, text =>
    match fuel, skipLines? false text with
    | _, none => none
    | _, some [] => some r
    | 0, _ => none
    | fuel + 1, some text =>
      match expression? r text with
      | none => none
      | some (r, rest) => expressions? fuel r rest

/-- The text without a mark of its byte order. -/
def withoutMark : List Char → List Char
  | '\uFEFF' :: text => text
  | text => text

/-- The table that the document describes, if it describes one. -/
def read? (s : String) : Option Toml :=
  let text := withoutMark s.toList
  (expressions? text.length ⟨⟨.header, []⟩, []⟩ text).map fun r => r.top.draft.finish

end VerseQuery.Toml
