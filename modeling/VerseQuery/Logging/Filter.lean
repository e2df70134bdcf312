/-
# Log filters

A filter is a list of directives with commas between them.  A directive is a level, a target, or a
target with its level; behind the target there may be a span in brackets, and within these fields
in braces.

White space at both ends of a directive is passed over, but only to find its signs: the parts are
then cut out of the whole text at the places that the signs have in the trimmed one.  So a level is
understood only if there is no white space around the directive.
-/
import VerseQuery.Logging.FieldPattern
import VerseQuery.Text.Blank

namespace VerseQuery.LogFilter

open Text

/-! ## 1. Levels and fields -/

/-- The names of the levels, from the fewest reports to the most. -/
def levelNames : List String :=
  ["off", "error", "warn", "info", "debug", "trace"]

/-- The number that the text writes, with or without a plus sign. -/
def unsigned? (text : List Char) : Option Nat :=
  let digits := if text.head? = some '+' then text.tail else text
  if !digits.isEmpty && digits.all Char.isDigit then some (Nat.ofDigitChars 10 digits 0) else none

/-- Whether the text names a level, in any case or by its number.  The empty text names one too. -/
def isLevel (text : List Char) : Bool :=
  text.isEmpty || levelNames.contains (String.ofList (text.map Char.toLower)) ||
    match unsigned? text with
    | some n => n < levelNames.length
    | none => false

/-- Whether the text is a field: a name, or a name and a value.  What stands behind a second equals
sign does not count. -/
def isField (text : List Char) : Bool :=
  !text.isEmpty &&
    match text.dropWhile (· != '=') with
    | [] => true
    | _ :: value => FieldPattern.isValue (value.takeWhile (· != '='))

/-! ## 2. Directives -/

/-- The characters of the text from one place to another, both counted in bytes. -/
def cut (start stop : Nat) : List Char → List Char
  | [] => []
  | c :: rest =>
    let width := c.utf8Size
    if 0 < start then cut (start - width) (stop - width) rest
    else if 0 < stop then c :: cut 0 (stop - width) rest
    else []

/-- Whether a directive may begin with the character, unless with a bracket. -/
def isFirstChar (c : Char) : Bool :=
  c == '-' || c == ':' || c == '_' || isAlphaNumeric c

/-- What a directive is read for.  A part whose text counts comes with the place where it starts. -/
inductive Stage where
  | start
  | levelOrTarget
  | span
  | field (start : Nat)
  | fieldsEnd
  | spanEnd
  | level (start : Nat)
  deriving DecidableEq, Repr

namespace Stage

/-- The stage after the sign `c`, which stands at `place`; `whole` is the directive as given. -/
def next? (whole : List Char) (place : Nat) (c : Char) : Stage → Option Stage
  | start =>
    if c == '[' then some span else if isFirstChar c then some levelOrTarget else none
  | levelOrTarget =>
    if c == '=' then some (level (place + 1)) else if c == '[' then some span
    else some levelOrTarget
  | span =>
    if c == ']' then some spanEnd else if c == '{' then some (field (place + 1)) else some span
  | field first =>
    if c != '}' then some (field first)
    else if isField (cut first place whole) then some fieldsEnd
    else none
  | fieldsEnd => if c == ']' then some spanEnd else none
  | spanEnd => if c == '=' then some (level (place + 1)) else none
  | level first => some (level first)

/-- Whether the directive may end at the stage. -/
def canEnd (whole : List Char) : Stage → Bool
  | levelOrTarget => true
  | spanEnd => true
  | level first => isLevel (whole.drop (cut 0 first whole).length)
  | _ => false

/-- The stage after all the given characters, the first of which stands at `place`. -/
def run? (whole : List Char) (place : Nat) (stage : Stage) : List Char → Option Stage
  | [] => some stage
  | c :: rest =>
    match stage.next? whole place c with
    | some stage => run? whole (place + c.utf8Size) stage rest
    | none => none

end Stage

/-- Whether the text is a directive. -/
def isDirective (text : List Char) : Bool :=
  match Stage.start.run? text 0 (trimChars text) with
  | some stage => stage.canEnd text
  | none => false

/-- Whether the text is a filter.  Where two commas stand side by side there is no directive. -/
def isValid (s : String) : Bool :=
  (s.splitOn ",").all fun directive => directive.isEmpty || isDirective directive.toList

end VerseQuery.LogFilter
