/-
# Values of fields in a log filter

A directive may ask for the value of a field: a number, or a pattern that the value has to match.
Here is told which texts are such a value.  No value holds a comma, an equals sign or a closing
brace, since each of these ends it.

A pattern has groups, alternatives, repetitions, bracketed classes and escapes.  It is read from
the front, and of what was read only two things count: how many groups are open, and whether there
is an element that a repetition sign can follow.
-/
import VerseQuery.Json.Token
import VerseQuery.Text.AlphaNumeric

namespace VerseQuery.FieldPattern

open Text

/-! ## 1. Escapes -/

/-- What an escape stands for. -/
inductive Escape where
  | char (code : Nat)
  | charSet
  /-- A condition on the place. -/
  | edge

/-- The character with the number that the first `count` hexadecimal digits write, and the rest. -/
def coded? (count : Nat) (text : List Char) : Option (Escape × List Char) :=
  if text.length < count then none
  else
    match JsonToken.hexValue? (text.take count) with
    | none => none
    | some n => if n.isValidChar then some (.char n, text.drop count) else none

/-- The general categories that have a name of one letter. -/
def categories : List Char := ['c', 'l', 'm', 'n', 'p', 's', 'z']

/-- The character that the letter stands for behind a backslash. -/
def control? : Char → Option Nat
  | 'a' => some 0x07
  | 't' => some 0x09
  | 'n' => some 0x0A
  | 'v' => some 0x0B
  | 'f' => some 0x0C
  | 'r' => some 0x0D
  | _ => none

/-- What stands behind a backslash, and the rest.  Word edges are not to be had. -/
def escape? : List Char → Option (Escape × List Char)
  | [] => none
  | 'x' :: rest => coded? 2 rest
  | 'u' :: rest => coded? 4 rest
  | 'U' :: rest => coded? 8 rest
  | c :: rest =>
    if c == 'p' || c == 'P' then
      match rest with
      | name :: rest => if categories.contains name.toLower then some (.charSet, rest) else none
      | [] => none
    else if ['d', 'D', 's', 'S', 'w', 'W'].contains c then some (.charSet, rest)
    else if c == 'A' || c == 'z' then some (.edge, rest)
    else
      match control? c with
      | some n => some (.char n, rest)
      | none =>
        if c.toNat < 0x80 && !c.isAlphanum && c != '<' && c != '>' then some (.char c.toNat, rest)
        else none

/-! ## 2. Bracketed classes -/

/-- The named classes of ASCII characters. -/
def classNames : List String :=
  ["alnum", "alpha", "ascii", "blank", "cntrl", "digit", "graph", "lower", "print", "punct",
    "space", "upper", "word", "xdigit"]

/-- The text behind a named class, whose opening bracket is read. -/
def namedClass? : List Char → Option (List Char)
  | ':' :: text =>
    let text := if text.head? = some '^' then text.tail else text
    match text.dropWhile (· != ':') with
    | ':' :: ']' :: rest =>
      if classNames.contains (String.ofList (text.takeWhile (· != ':'))) then some rest else none
    | _ => none
  | _ => none

/-- The text behind the opening of a class, whose bracket is read.  Hyphens that come first stand
for themselves, and so does a closing bracket that does. -/
def opening? (text : List Char) : Option (List Char) :=
  let text := if text.head? = some '^' then text.tail else text
  match text with
  | [] => none
  | ']' :: rest => if rest.isEmpty then none else some rest
  | _ =>
    let rest := text.dropWhile (· == '-')
    if rest.isEmpty then none else some rest

/-- The first end of a range, or a set, and the rest. -/
def member? : List Char → Option (Escape × List Char)
  | [] => none
  | '\\' :: rest => escape? rest
  | c :: rest => some (.char c.toNat, rest)

/-- The text behind a member of a class or a range of members. -/
def range? (text : List Char) : Option (List Char) :=
  match member? text with
  | none => none
  | some (first, rest) =>
    match first, rest with
    | .edge, _ => none
    | _, [] => none
    | _, '-' :: ']' :: _ => some rest
    | _, '-' :: '-' :: _ => some rest
    | .char low, '-' :: more =>
      match member? more with
      | some (.char high, rest) => if low ≤ high then some rest else none
      | _ => none
    | .charSet, '-' :: _ => none
    | _, _ => some rest

/-- The text behind `depth` classes within one another, all of which are open, in at most `fuel`
steps. -/
def classes? : (fuel depth : Nat) → List Char → Option (List Char)
  | _, 0, text => some text
  | 0, _, _ => none
  | fuel + 1, depth + 1, text =>
    match text with
    | [] => none
    | ']' :: rest => classes? fuel depth rest
    | '&' :: '&' :: rest => classes? fuel (depth + 1) rest
    | '-' :: '-' :: rest => classes? fuel (depth + 1) rest
    | '~' :: '~' :: rest => classes? fuel (depth + 1) rest
    | '[' :: rest =>
      match namedClass? rest, opening? rest with
      | some rest, _ => classes? fuel (depth + 1) rest
      | none, some rest => classes? fuel (depth + 2) rest
      | none, none => none
    | text =>
      match range? text with
      | some rest => classes? fuel (depth + 1) rest
      | none => none

/-! ## 3. Groups -/

/-- What opening a group leads to. -/
inductive GroupStart where
  /-- A group with these characters for a name. -/
  | named (name : List Char)
  | nameless
  /-- No group, but a change of the flags for what follows. -/
  | flags

/-- Whether the characters are flags, each named once, those behind a hyphen put out. -/
def areFlags (flags : List Char) : Bool :=
  flags.all ['i', 'm', 's', 'U', 'u', 'R', 'x', '-'].contains && flags.eraseDups == flags &&
    flags.getLast? != some '-'

/-- Whether the characters are the name of a group. -/
def isGroupName : List Char → Bool
  | [] => false
  | c :: rest =>
    (c == '_' || isLetter c) &&
      rest.all fun c => ['_', '.', '[', ']'].contains c || isAlphaNumeric c

/-- The group whose name comes next, up to the bracket that ends it, and the rest. -/
def namedGroup? (text : List Char) : Option (GroupStart × List Char) :=
  let name := text.takeWhile (· != '>')
  match text.dropWhile (· != '>') with
  | _ :: rest => if isGroupName name then some (.named name, rest) else none
  | [] => none

/-- The group or the flags behind an opening parenthesis, and the rest.  A look at the text ahead
or behind is not to be had. -/
def group? : List Char → Option (GroupStart × List Char)
  | '?' :: '<' :: '!' :: _ => none
  | '?' :: 'P' :: '<' :: rest => namedGroup? rest
  | '?' :: '<' :: rest => namedGroup? rest
  | '?' :: rest =>
    let flags := rest.takeWhile fun c => c != ':' && c != ')'
    if areFlags flags then
      match rest.drop flags.length with
      | ':' :: rest => some (.nameless, rest)
      | ')' :: rest => if flags.isEmpty then none else some (.flags, rest)
      | _ => none
    else none
  | rest => some (.nameless, rest)

/-! ## 4. Patterns -/

/-- Where reading stands. -/
structure State where
  /-- How many groups are open. -/
  groups : Nat
  /-- The names of groups that were given. -/
  names : List (List Char)
  /-- Whether there is an element that can be repeated. -/
  repeatable : Bool

namespace State

def start : State := ⟨0, [], false⟩

/-- After an element. -/
def element (state : State) : State := { state with repeatable := true }

/-- Before any element. -/
def blank (state : State) : State := { state with repeatable := false }

/-- After the beginning of a group.  No two groups have one name. -/
def enter? (state : State) : GroupStart → Option State
  | .flags => some state.blank
  | .nameless => some { state.blank with groups := state.groups + 1 }
  | .named name =>
    if state.names.contains name then none
    else some ⟨state.groups + 1, name :: state.names, false⟩

end State

/-- Whether the rest of a pattern can follow where reading stands, in at most `fuel` steps. -/
def canFollow : Nat → State → List Char → Bool
  | _, state, [] => state.groups == 0
  | 0, _, _ => false
  | fuel + 1, state, c :: rest =>
    match c with
    | '\\' =>
      match escape? rest with
      | some (_, rest) => canFollow fuel state.element rest
      | none => false
    | '[' =>
      match (opening? rest).bind (classes? (rest.length + 1) 1) with
      | some rest => canFollow fuel state.element rest
      | none => false
    | '(' =>
      match group? rest with
      | some (group, rest) =>
        match state.enter? group with
        | some state => canFollow fuel state rest
        | none => false
      | none => false
    | ')' =>
      match state.groups with
      | 0 => false
      | groups + 1 => canFollow fuel { state.element with groups } rest
    | '|' => canFollow fuel state.blank rest
    | '{' => false
    | c =>
      if c == '*' || c == '+' || c == '?' then
        state.repeatable && canFollow fuel state (if rest.head? = some '?' then rest.tail else rest)
      else canFollow fuel state.element rest

def isPattern (text : List Char) : Bool :=
  canFollow text.length .start text

/-! ## 5. Values -/

/-- Whether the text is a number without a sign. -/
def isUnsignedNumber (text : List Char) : Bool :=
  ["inf", "infinity", "nan"].contains (String.ofList (text.map Char.toLower)) ||
    let whole := text.takeWhile Char.isDigit
    let text := text.dropWhile Char.isDigit
    let fraction := if text.head? = some '.' then text.tail.takeWhile Char.isDigit else []
    let text := if text.head? = some '.' then text.tail.dropWhile Char.isDigit else text
    !(whole.isEmpty && fraction.isEmpty) &&
      match text with
      | [] => true
      | c :: power =>
        let digits := if power.head? = some '+' || power.head? = some '-' then power.tail else power
        (c == 'e' || c == 'E') && !digits.isEmpty && digits.all Char.isDigit

/-- Whether the text is the value of a field.  A number with a plus sign is one, though no pattern
begins with that sign; all other numbers are patterns too. -/
def isValue : List Char → Bool
  | '+' :: rest => isUnsignedNumber rest
  | text => isPattern text

end VerseQuery.FieldPattern
