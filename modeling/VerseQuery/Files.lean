/-
# Settings and synonyms from files

A file is given by its bytes, or as missing.  It has to be UTF-8, and a TOML document of the right
kind.
-/
import VerseQuery.Query.Error
import VerseQuery.Toml.Decode
import VerseQuery.Toml.Reader

namespace VerseQuery

/-- The bytes of a file, if there is one. -/
abbrev File := Option ByteArray

/-- The text of the file. -/
def File.text : File → Except FileFault String
  | none => .error .notFound
  | some bytes =>
    match String.fromUTF8? bytes with
    | some s => .ok s
    | none => .error .notText

/-- The value that a reader makes of the file's text; the reader's failure has one cause. -/
def File.read {α : Type} (file : File) (reader : String → Option α) (failure : QueryError) :
    Except QueryError α :=
  match file.text with
  | .error fault => .error (.file fault)
  | .ok s =>
    match reader s with
    | some a => .ok a
    | none => .error failure

namespace Dictionary

/-- The dictionary that a TOML text describes. -/
def ofText? (s : String) : Option Dictionary :=
  (Toml.read? s).bind ofToml?

def ofFile (file : File) : Except QueryError Dictionary :=
  file.read ofText? .synonyms

end Dictionary

/-- How it went to load the settings from their file. -/
inductive LoadReport where
  | loaded
  /-- The file was not understood. -/
  | notUnderstood
  /-- There was no file, or it could not be read. -/
  | notRead
  deriving DecidableEq, Repr

namespace AppSettings

/-- The settings that a TOML text describes. -/
def ofText? (s : String) : Option AppSettings :=
  (Toml.read? s).bind ofToml?

def ofFile (file : File) : Except QueryError AppSettings :=
  file.read ofText? .settings

/-- The settings from their file, or the defaults if that fails, and how it went. -/
def load (file : File) : AppSettings × LoadReport :=
  match ofFile file with
  | .ok s => (s, .loaded)
  | .error (.file _) => ({}, .notRead)
  | .error _ => ({}, .notUnderstood)

end AppSettings

end VerseQuery
