/-
# Search requests

What a user asks for: a text with a way of matching it, or pairs of words that stand close to each
other; words that must and must not occur; and a scope that is handed on to whoever runs the search.
-/
import VerseQuery.KeyTable
import VerseQuery.Text.Blank

namespace VerseQuery

open Text

/-! ## 1. The parts of a request -/

/-- Where in a word or in a text the search text has to stand. -/
inductive MatchMode where
  | contains
  | startsWith
  | endsWith
  | wholeWord
  | wordStartsWith
  | wordEndsWith
  deriving DecidableEq, Repr

namespace MatchMode

/-- The modes, in the order in which they are offered. -/
def all : List MatchMode :=
  [contains, startsWith, endsWith, wholeWord, wordStartsWith, wordEndsWith]

/-- How the mode is called in a description. -/
def label : MatchMode → String
  | contains => "Contains"
  | startsWith => "Starts with"
  | endsWith => "Ends with"
  | wholeWord => "Whole word"
  | wordStartsWith => "Word starts with"
  | wordEndsWith => "Word ends with"

end MatchMode

/-- The distance within the bounds that a pair of words may have: from 1 to 30 words between. -/
def clampDistance (d : Int64) : Int64 :=
  if d < 1 then 1 else if 30 < d then 30 else d

/-- Two words, the first of which stands in front of the second with few words between them. -/
structure ProximityRule where
  first : String
  second : String
  /-- How many words may stand between, as it was asked for. -/
  maxDistance : Int64
  deriving DecidableEq, Repr

namespace ProximityRule

/-- The rule with its distance within the bounds. -/
def clamped (rule : ProximityRule) : ProximityRule :=
  { rule with maxDistance := clampDistance rule.maxDistance }

/-- How many words may stand between, within the bounds. -/
def distance (rule : ProximityRule) : Nat :=
  (clampDistance rule.maxDistance).toNatClampNeg

/-- A rule is of use when neither of its words is blank. -/
def isUsable (rule : ProximityRule) : Bool :=
  !isBlankText rule.first && !isBlankText rule.second

/-- The rule as it is searched for: its words trimmed and its distance within the bounds. -/
def normal (rule : ProximityRule) : ProximityRule :=
  ⟨trim rule.first, trim rule.second, clampDistance rule.maxDistance⟩

end ProximityRule

inductive Testament where
  | old
  | new
  deriving DecidableEq, Repr

/-- Which part of the corpus is searched.  It does not bear on the pattern. -/
structure Scope where
  translations : List String := []
  testament : Option Testament := none
  books : List String := []
  /-- Grammatical filters by name. -/
  morphology : KeyTable String := ∅
  deriving DecidableEq, Inhabited

/-! ## 2. Requests -/

structure Request where
  text : String := ""
  mode : MatchMode := .contains
  ignoreCase : Bool := true
  /-- For information only: the mode decides. -/
  exactPhrase : Bool := false
  /-- Whether an `s` may follow the text. -/
  plurals : Bool := false
  /-- Whether synonyms are searched for as well. -/
  synonyms : Bool := false
  /-- How many synonyms a word may contribute, if the request says so. -/
  synonymCap : Option UInt64 := none
  required : List String := []
  excluded : List String := []
  proximity : List ProximityRule := []
  scope : Scope := {}
  deriving DecidableEq, Inhabited

namespace Request

/-- A search for a text. -/
def ofText (text : String) (mode : MatchMode) : Request :=
  { text, mode }

/-- A search for pairs of words. -/
def ofRules (rules : List ProximityRule) : Request :=
  { proximity := rules }

def withPlurals (r : Request) : Request :=
  { r with plurals := true }

def withSynonyms (r : Request) (cap : UInt64) : Request :=
  { r with synonyms := true, synonymCap := some cap }

def caseSensitive (r : Request) : Request :=
  { r with ignoreCase := false }

/-- The request with more words that must occur. -/
def requiring (r : Request) (terms : List String) : Request :=
  { r with required := r.required ++ terms }

/-- The request with more words that must not occur. -/
def excluding (r : Request) (terms : List String) : Request :=
  { r with excluded := r.excluded ++ terms }

def withScope (r : Request) (scope : Scope) : Request :=
  { r with scope }

/-- The rules that are searched for. -/
def usableRules (r : Request) : List ProximityRule :=
  (r.proximity.filter (·.isUsable)).map (·.normal)

/-- Whether there is anything to search for. -/
def hasInput (r : Request) : Bool :=
  !isBlankText r.text || r.proximity.any (·.isUsable)

end Request

/-- The terms that count, trimmed: blank ones do not. -/
def keptTerms (terms : List String) : List String :=
  (terms.map trim).filter (· != "")

/-- The request without what does not count: texts are trimmed, and blank terms and rules of no
use are left out. -/
def Request.normal (r : Request) : Request :=
  { r with
    text := trim r.text
    required := keptTerms r.required
    excluded := keptTerms r.excluded
    proximity := r.usableRules }

end VerseQuery
