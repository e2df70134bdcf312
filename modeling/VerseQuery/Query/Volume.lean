/-
# The volume of results

An estimate, made without a search, of how many results a query has.  The first of these rules that
applies decides.

| rule                                             | estimate |
|--------------------------------------------------|----------|
| the text is blank                                | extreme  |
| the text has one character                       | high     |
| the text has two characters                      | moderate |
| the text is one of the commonest words           | extreme  |
| the pattern repeats the character set of any     | high     |
| the pattern has more than three question marks   | moderate |
| none of these                                    | safe     |
-/
import VerseQuery.Query.Cost
import VerseQuery.Text.LowerCase

namespace VerseQuery

open Text

/-- How many results a query has, in rising order. -/
inductive Volume where
  | safe
  | moderate
  | high
  | extreme
  deriving DecidableEq, Repr

namespace Volume

/-- The estimates in rising order. -/
def all : List Volume := [safe, moderate, high, extreme]

def name : Volume → String
  | safe => "safe"
  | moderate => "moderate"
  | high => "high"
  | extreme => "extreme"

/-- The place of the estimate in the order. -/
def rank : Volume → Nat
  | safe => 0
  | moderate => 1
  | high => 2
  | extreme => 3

instance : LE Volume := ⟨fun a b => a.rank ≤ b.rank⟩

instance (a b : Volume) : Decidable (a ≤ b) := inferInstanceAs (Decidable (a.rank ≤ b.rank))

/-- Whether the user is warned of so many results. -/
def needsWarning : Volume → Bool
  | high => true
  | extreme => true
  | _ => false

end Volume

/-- The words that stand in so many places that a search for one of them is of little use. -/
def stopWords : List String :=
  -- articles
  ["a", "an", "the",
    -- pronouns
    "i", "you", "he", "she", "it", "we", "they", "me", "him", "her", "us", "them",
    "my", "your", "his", "its", "our", "their", "this", "that", "these", "those",
    "who", "whom", "whose", "which", "what", "thee", "thou", "thy", "thine", "ye",
    -- conjunctions
    "and", "or", "but", "nor", "so", "yet", "for",
    "because", "although", "while", "if", "unless",
    -- common verbs
    "is", "are", "was", "were", "be", "been", "being", "have", "has", "had", "having", "hath",
    "do", "does", "did", "doing", "doth", "will", "would", "could", "should", "may", "might",
    "must", "can", "shall", "said", "saith", "came", "come"]

/-- Whether the word is one of the commonest, whatever its case and the blanks around it. -/
def isStopWord (word : String) : Bool :=
  stopWords.contains (normal word)

/-- How many question marks a pattern may have before it is thought to match much. -/
def optionalMarkLimit : Nat := 3

/-- The volume of results of the pattern, which was made from the text. -/
def estimateVolume (pattern text : String) : Volume :=
  match (trim text).length with
  | 0 => .extreme
  | 1 => .high
  | 2 => .moderate
  | _ =>
    if isStopWord text then .extreme
    else if 0 < occurrences ['.', '*'] pattern.toList ∨ 0 < occurrences ['.', '+'] pattern.toList
    then .high
    else if optionalMarkLimit < pattern.toList.count '?' then .moderate
    else .safe

end VerseQuery
