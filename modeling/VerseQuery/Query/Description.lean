/-
# Descriptions

A sentence for the user that says what a query looks for, clause by clause.
-/
import VerseQuery.Request

namespace VerseQuery

open Text

namespace Description

def quoted (s : String) : String :=
  "\"" ++ s ++ "\""

/-- The clause for the kept terms of a list, if there are any. -/
def termClause (label : String) (terms : List String) : List String :=
  match keptTerms terms with
  | [] => []
  | kept => [label ++ " " ++ ", ".intercalate (kept.map quoted)]

/-- The pair of words that a rule looks for. -/
def rule (r : ProximityRule) : String :=
  let unit := if r.distance = 1 then "word" else "words"
  quoted r.first ++ " within " ++ r.distance.repr ++ " " ++ unit ++ " of " ++ quoted r.second

/-- The clause for the rules, of which any one is enough. -/
def ruleClause (rules : List ProximityRule) : String :=
  " or ".intercalate (rules.map rule)

/-- The clauses for a text that is searched for with so many synonyms. -/
def textClauses (text : String) (mode : MatchMode) (plurals : Bool) (synonyms : Nat) :
    List String :=
  let noun := if synonyms = 1 then "synonym" else "synonyms"
  [mode.label ++ " " ++ quoted text] ++
    (if plurals then ["including plurals"] else []) ++
    (if synonyms = 0 then [] else ["with " ++ synonyms.repr ++ " " ++ noun])

end Description

/-- The clauses that describe the request, searched for with so many synonyms: what is searched
for, then the terms that must and must not occur. -/
def Request.clauses (r : Request) (synonyms : Nat) : List String :=
  let subject :=
    if r.usableRules.isEmpty then Description.textClauses (trim r.text) r.mode r.plurals synonyms
    else [Description.ruleClause r.usableRules]
  subject ++ Description.termClause "must contain" r.required ++
    Description.termClause "must not contain" r.excluded

/-- The description of the request, searched for with so many synonyms. -/
def Request.describe (r : Request) (synonyms : Nat) : String :=
  ", ".intercalate (r.clauses synonyms)

end VerseQuery
