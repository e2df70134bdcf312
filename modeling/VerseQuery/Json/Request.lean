/-
# Requests in JSON

A request is an object.  The members of its scope stand among its own, any member may be missing,
and members of other names are passed over.
-/
import VerseQuery.Json.Decode
import VerseQuery.Request

namespace VerseQuery

open Json

/-! ## 1. Names -/

def MatchMode.name : MatchMode → String
  | contains => "contains"
  | startsWith => "startsWith"
  | endsWith => "endsWith"
  | wholeWord => "wholeWord"
  | wordStartsWith => "wordStartsWith"
  | wordEndsWith => "wordEndsWith"

def MatchMode.ofJson? : Json → Option MatchMode :=
  asNamed? isNull name all

def Testament.name : Testament → String
  | old => "old"
  | new => "new"

def Testament.ofJson? (isUnit : Json → Bool) : Json → Option Testament :=
  asNamed? isUnit name [old, new]

/-! ## 2. Rules -/

namespace ProximityRule

def toJson (rule : ProximityRule) : Json :=
  record [("word1", string rule.first), ("word2", string rule.second),
    ("maxDistance", int rule.maxDistance.toInt)]

def fields : List String := ["word1", "word2", "maxDistance"]

/-- All three fields have to be there. -/
def ofJson? (j : Json) : Option ProximityRule := do
  let members ← asRecord? fields j
  return {
    first := ← required members "word1" asString?
    second := ← required members "word2" asString?
    maxDistance := ← required members "maxDistance" asInt64? }

end ProximityRule

/-! ## 3. Scopes -/

namespace Scope

def members (scope : Scope) : List (String × Json) :=
  [("translations", strings scope.translations),
    ("testament", ofOption (fun t => string t.name) scope.testament),
    ("books", strings scope.books),
    ("morphology", record (scope.morphology.entries.map fun e => (e.1, string e.2)))]

def toJson (scope : Scope) : Json :=
  record scope.members

def fields : List String := ["translations", "testament", "books", "morphology"]

/-- The scope among the members of an object.  `isUnit` says what the name of a testament may
hold. -/
def ofMembers? (isUnit : Json → Bool) (members : List (JsonText × Json)) : Option Scope := do
  return {
    translations := ← field members "translations" [] asStrings?
    testament := ← field members "testament" none (asOption? (Testament.ofJson? isUnit))
    books := ← field members "books" [] asStrings?
    morphology := ← field members "morphology" ∅ (asTable? asString?) }

/-- A scope on its own. -/
def ofJson? (j : Json) : Option Scope :=
  (asRecord? fields j).bind (ofMembers? isNull)

/-- Among the members of a request, the name of a testament may also hold an empty object. -/
def isEmptyUnit : Json → Bool
  | null => true
  | object [] => true
  | _ => false

end Scope

/-! ## 4. Requests -/

namespace Request

/-- The members of the request's own. -/
def ownMembers (r : Request) : List (String × Json) :=
  [("text", string r.text),
    ("matchMode", string r.mode.name),
    ("caseInsensitive", bool r.ignoreCase),
    ("exactPhrase", bool r.exactPhrase),
    ("includePlurals", bool r.plurals),
    ("includeSynonyms", bool r.synonyms),
    ("maxSynonymsPerWord", ofOption (fun n => nat n.toNat) r.synonymCap),
    ("mustContain", strings r.required),
    ("mustNotContain", strings r.excluded),
    ("proximityRules", array (r.proximity.map (·.toJson)))]

def toJson (r : Request) : Json :=
  record (r.ownMembers ++ r.scope.members)

def ownFields : List String :=
  ["text", "matchMode", "caseInsensitive", "exactPhrase", "includePlurals", "includeSynonyms",
    "maxSynonymsPerWord", "mustContain", "mustNotContain", "proximityRules"]

/-- How deep the values of the members that are not the request's own may be nested. -/
def nestingRoom : Nat := 126

/-- Members that are not the request's own are kept until the scope has been taken from among
them, so each of them has to be a value that can be kept. -/
def keepsOthers (members : List (JsonText × Json)) : Bool :=
  membersKeepable nestingRoom
    (members.filter fun m => !ownFields.any fun name => m.1 == some name)

def ofJson? : Json → Option Request
  | object members =>
    if areDistinct (ownFields ++ Scope.fields) members && keepsOthers members then do
      return {
        text := ← field members "text" "" asString?
        mode := ← field members "matchMode" .contains MatchMode.ofJson?
        ignoreCase := ← field members "caseInsensitive" true asBool?
        exactPhrase := ← field members "exactPhrase" false asBool?
        plurals := ← field members "includePlurals" false asBool?
        synonyms := ← field members "includeSynonyms" false asBool?
        synonymCap := ← field members "maxSynonymsPerWord" none (asOption? asUInt64?)
        required := ← field members "mustContain" [] asStrings?
        excluded := ← field members "mustNotContain" [] asStrings?
        proximity := ← field members "proximityRules" [] (asList? ProximityRule.ofJson?)
        scope := ← Scope.ofMembers? Scope.isEmptyUnit members }
    else none
  | _ => none

end Request

end VerseQuery
