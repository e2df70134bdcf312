/-
# Settings and synonyms in TOML

Entries of unknown names are passed over.  A record may be written as a table, or as an array of
its fields in order, of which the last may be missing and any that are left over are passed over.
-/
import VerseQuery.Settings
import VerseQuery.Synonyms.Dictionary
import VerseQuery.Toml.Basic

namespace VerseQuery.Toml

/-! ## 1. Simple types -/

def asString? : Toml → Option String
  | string s => some s
  | _ => none

def asBool? : Toml → Option Bool
  | bool b => some b
  | _ => none

/-- A natural number below the bound. -/
def asNat? (bound : Nat) : Toml → Option Nat
  | integer n => if 0 ≤ n ∧ n < bound then some n.toNat else none
  | _ => none

def asUInt8? (t : Toml) : Option UInt8 :=
  (t.asNat? UInt8.size).map UInt8.ofNat

def asUInt64? (t : Toml) : Option UInt64 :=
  (t.asNat? UInt64.size).map UInt64.ofNat

def asStrings? : Toml → Option (List String)
  | array items => items.mapM asString?
  | _ => none

/-- An entry that holds a list of strings. -/
def namedStrings? (e : String × Toml) : Option (String × List String) :=
  e.2.asStrings?.map (e.1, ·)

/-- A table of lists of strings. -/
def asStringsTable? : Toml → Option (KeyTable (List String))
  | table entries => (entries.mapM namedStrings?).map KeyTable.ofList
  | _ => none

/-! ## 2. Records -/

/-- The entries of a record with the given fields.  A date counts as a record without any. -/
def asRecord? (fields : List String) : Toml → Option (List (String × Toml))
  | table entries => some entries
  | array items => some (fields.zip items)
  | date => some []
  | _ => none

/-- The value of a field that may be missing. -/
def field {α : Type} (entries : List (String × Toml)) (name : String) (default : α)
    (decode : Toml → Option α) : Option α :=
  match entries.find? (·.1 == name) with
  | none => some default
  | some e => decode e.2

end VerseQuery.Toml

namespace VerseQuery

open Toml

def Settings.ofToml? (t : Toml) : Option Settings := do
  let entries ← asRecord?
    ["complexity_warning_threshold", "regex_size_limit", "default_max_synonyms_per_word"] t
  return {
    warningThreshold := ← field entries "complexity_warning_threshold" 80 asUInt8?
    sizeLimit := ← field entries "regex_size_limit" 67108864 asUInt64?
    synonymCap := ← field entries "default_max_synonyms_per_word" 10 asUInt64? }

def LogSettings.ofToml? (t : Toml) : Option LogSettings := do
  let entries ← asRecord? ["level", "json", "log_dir"] t
  return {
    level := ← field entries "level" "info" asString?
    json := ← field entries "json" false asBool?
    directory := ← field entries "log_dir" none fun t => t.asString?.map some }

def AppSettings.ofToml? (t : Toml) : Option AppSettings := do
  let entries ← asRecord? ["compiler", "logging"] t
  return {
    compiler := ← field entries "compiler" {} Settings.ofToml?
    logging := ← field entries "logging" {} LogSettings.ofToml? }

/-- The dictionary with the groups and entries of two tables, each of which may be missing. -/
def Dictionary.ofToml? (t : Toml) : Option Dictionary := do
  let entries ← asRecord? ["multi_way", "one_way"] t
  return Dictionary.ofTables (← field entries "multi_way" ∅ asStringsTable?)
    (← field entries "one_way" ∅ asStringsTable?)

end VerseQuery
