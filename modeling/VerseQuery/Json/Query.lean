/-
# Compiled queries in JSON
-/
import VerseQuery.Json.Request
import VerseQuery.Query.Compile

namespace VerseQuery

open Json

def Volume.ofJson? : Json → Option Volume :=
  asNamed? isNull name all

def QueryPattern.toJson (q : QueryPattern) : Json :=
  record [("source", string q.source), ("flags", string q.flags.text)]

def CompiledQuery.toJson (q : CompiledQuery) : Json :=
  record [("pattern", q.pattern.toJson),
    ("description", string q.description),
    ("complexityScore", nat q.cost),
    ("volumeEstimate", string q.volume.name),
    ("warning", ofOption (fun w => string w.message) q.warning),
    ("scope", q.scope.toJson)]

end VerseQuery
