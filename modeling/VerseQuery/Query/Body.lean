/-
# The body of a query

The pattern of what is searched for, without the constraints: a text with its alternatives, placed
as the mode says, or pairs of words that stand close to each other.
-/
import VerseQuery.Pattern.Basic
import VerseQuery.Request

namespace VerseQuery

/-! ## 1. A text and its alternatives -/

/-- The pattern placed as the mode says.  A mode for part of a word also takes the rest of it. -/
def MatchMode.place (p : Pattern .sequence) : MatchMode → Pattern .sequence
  | contains => p
  | startsWith => .anchor .textStart p
  | endsWith => p ++ Pattern.anchor .textEnd .done
  | wholeWord => .anchor .wordEdge (p ++ Pattern.anchor .wordEdge .done)
  | wordStartsWith => .anchor .wordEdge (p ++ Pattern.take .word .star .done)
  | wordEndsWith => .take .word .star (p ++ Pattern.anchor .wordEdge .done)

/-- Any one of the texts, with an `s` after it if plurals are wanted. -/
def alternatives (plurals : Bool) (texts : List String) : Pattern .sequence :=
  let any := Pattern.oneOf (texts.map fun text => Pattern.literal text.toList)
  if plurals then any ++ Pattern.take (.char 's') .optional .done else any

/-- The text or one of its synonyms, placed as the mode says. -/
def textBody (text : String) (mode : MatchMode) (plurals : Bool) (synonyms : List String) :
    Pattern .sequence :=
  mode.place (alternatives plurals (text :: synonyms))

/-! ## 2. Pairs of words -/

namespace ProximityRule

/-- A word and the separators behind it, in ASCII. -/
def gapWord : Pattern .sequence :=
  .take .asciiWord .plus (.take .asciiSeparator .plus .done)

/-- The first word, separators, at most as many words as the distance allows, and the second
word. -/
def pattern (rule : ProximityRule) : Pattern .sequence :=
  Pattern.wholeWord rule.first.toList ++
    Pattern.take .asciiSeparator .plus
      (.upTo rule.distance (.last gapWord) (Pattern.wholeWord rule.second.toList))

end ProximityRule

/-- Any one of the rules. -/
def proximityBody (rules : List ProximityRule) : Pattern .sequence :=
  Pattern.oneOf (rules.map (·.pattern))

end VerseQuery
