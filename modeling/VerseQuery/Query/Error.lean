/-
# Errors

Why a query could not be made, or a file not be read.
-/

namespace VerseQuery

/-- Why the text of a file could not be had. -/
inductive FileFault where
  | notFound
  /-- The bytes are not UTF-8. -/
  | notText
  /-- Part of the path is a file. -/
  | notADirectory
  deriving DecidableEq, Repr

inductive QueryError where
  /-- There is nothing to search for. -/
  | emptyQuery
  /-- The machine for the pattern would take more bytes than allowed. -/
  | tooLarge (source : String) (limit : UInt64)
  /-- The synonym service failed. -/
  | lookup (reason : String)
  /-- The synonym file is not understood. -/
  | synonyms
  /-- The settings file is not understood. -/
  | settings
  | file (fault : FileFault)
  deriving DecidableEq, Repr

/-- A reason by itself is that of a service that failed. -/
instance : Coe String QueryError := ⟨.lookup⟩

/-- What the user is told. -/
def QueryError.message : QueryError → String
  | emptyQuery => "Search text is empty and no proximity rule was given"
  | tooLarge source limit =>
    "Pattern compilation failed for `" ++ source ++ "`: Compiled regex exceeds size limit of " ++
      limit.toNat.repr ++ " bytes."
  | lookup reason => "Synonym lookup failed: " ++ reason
  | synonyms => "Synonym config parse failed"
  | settings => "TOML parse error"
  | file .notFound => "IO error: not found"
  | file .notText => "IO error: stream did not contain valid UTF-8"
  | file .notADirectory => "IO error: not a directory"

end VerseQuery
