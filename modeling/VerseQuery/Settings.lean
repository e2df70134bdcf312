/-
# Settings

What an application sets once: how queries are compiled, and how the program reports on its work.
-/

namespace VerseQuery

/-- How queries are compiled. -/
structure Settings where
  /-- A query with a higher cost than this gets a warning. -/
  warningThreshold : UInt8 := 80
  /-- How many bytes the machine for a pattern may take. -/
  sizeLimit : UInt64 := 67108864
  /-- How many synonyms a word may contribute when the request does not say. -/
  synonymCap : UInt64 := 10
  deriving DecidableEq, Repr, Inhabited

/-- How the program reports on its work. -/
structure LogSettings where
  /-- Which reports are made. -/
  level : String := "info"
  /-- Whether reports are written as JSON. -/
  json : Bool := false
  /-- A directory for reports, besides those on standard output. -/
  directory : Option String := none
  deriving DecidableEq, Repr, Inhabited

structure AppSettings where
  compiler : Settings := {}
  logging : LogSettings := {}
  deriving DecidableEq, Repr, Inhabited

end VerseQuery
