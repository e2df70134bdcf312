/-
# Settings in JSON
-/
import VerseQuery.Json.Decode
import VerseQuery.Settings

namespace VerseQuery

open Json

namespace Settings

def toJson (s : Settings) : Json :=
  record [("complexity_warning_threshold", nat s.warningThreshold.toNat),
    ("regex_size_limit", nat s.sizeLimit.toNat),
    ("default_max_synonyms_per_word", nat s.synonymCap.toNat)]

def fields : List String :=
  ["complexity_warning_threshold", "regex_size_limit", "default_max_synonyms_per_word"]

/-- A missing setting has its default. -/
def ofJson? (j : Json) : Option Settings := do
  let members ← asRecord? fields j
  return {
    warningThreshold := ← field members "complexity_warning_threshold" 80 asUInt8?
    sizeLimit := ← field members "regex_size_limit" 67108864 asUInt64?
    synonymCap := ← field members "default_max_synonyms_per_word" 10 asUInt64? }

end Settings

def LogSettings.toJson (s : LogSettings) : Json :=
  record [("level", string s.level), ("json", bool s.json),
    ("log_dir", ofOption string s.directory)]

def AppSettings.toJson (s : AppSettings) : Json :=
  record [("compiler", s.compiler.toJson), ("logging", s.logging.toJson)]

end VerseQuery
