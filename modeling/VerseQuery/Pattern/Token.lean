/-
# Pattern tokens

Pattern text is a row of tokens.  `Token.text` writes one, and `Token.scan` cuts a text into them,
always taking the longest token that fits.
-/
import VerseQuery.Pattern.Basic
import VerseQuery.Pattern.Escape

namespace VerseQuery

/-- What a bracket opens. -/
inductive Opening where
  | group
  | ahead (holds : Bool)
  deriving DecidableEq, Repr

inductive Token where
  | take (set : CharSet) (times : Times)
  | anchor (anchor : Anchor)
  | opening (opening : Opening)
  | bar
  /-- A closing bracket, with the bound of the repetition that it may carry. -/
  | close (bound : Option Nat)
  deriving DecidableEq, Repr

/-! ## 1. Writing -/

/-- The ASCII word characters, as they are written in a bracket, and its end. -/
def asciiWordTail : List Char :=
  "0-9A-Za-z_]".toList

def CharSet.text : CharSet → List Char
  | char c => escapeChar c
  | word => ['\\', 'w']
  | asciiWord => '[' :: asciiWordTail
  | asciiSeparator => '[' :: '^' :: asciiWordTail
  | any => ['.']

def Times.text : Times → List Char
  | once => []
  | optional => ['?']
  | star => ['*']
  | plus => ['+']

def Anchor.text : Anchor → List Char
  | textStart => ['^']
  | textEnd => ['$']
  | wordEdge => ['\\', 'b']

def Opening.text : Opening → List Char
  | group => ['(', '?', ':']
  | ahead true => ['(', '?', '=']
  | ahead false => ['(', '?', '!']

namespace Token

/-- How a repetition of at most `bound` times is written. -/
def boundText (bound : Nat) : List Char :=
  ['{', '0', ','] ++ Nat.toDigits 10 bound ++ ['}']

def text : Token → List Char
  | take set times => set.text ++ times.text
  | anchor a => a.text
  | opening o => o.text
  | bar => ['|']
  | close none => [')']
  | close (some bound) => ')' :: boundText bound

/-! ## 2. Reading -/

/-- The character set written at the front of the text, and the rest. -/
def scanSet? : List Char → Option (CharSet × List Char)
  | [] => none
  | c :: rest =>
    if c = '\\' then
      match rest with
      | [] => none
      | d :: rest =>
        if d = 'w' then some (.word, rest)
        else if metaChars.contains d then some (.char d, rest)
        else none
    else if c = '[' then
      match asciiWordTail.isPrefixOf? rest, ('^' :: asciiWordTail).isPrefixOf? rest with
      | some rest, _ => some (.asciiWord, rest)
      | none, some rest => some (.asciiSeparator, rest)
      | none, none => none
    else if c = '.' then some (.any, rest)
    else if metaChars.contains c then none
    else some (.char c, rest)

/-- The quantifier written at the front of the text, and the rest. -/
def scanTimes : List Char → Times × List Char
  | [] => (.once, [])
  | c :: rest =>
    if c = '?' then (.optional, rest)
    else if c = '*' then (.star, rest)
    else if c = '+' then (.plus, rest)
    else (.once, c :: rest)

/-- What a bracket opens, by the text behind it, and the rest. -/
def scanOpening? : List Char → Option (Opening × List Char)
  | '?' :: sign :: rest =>
    if sign = ':' then some (.group, rest)
    else if sign = '=' then some (.ahead true, rest)
    else if sign = '!' then some (.ahead false, rest)
    else none
  | _ => none

/-- The bound that a closing bracket carries, by the text behind it, and the rest. -/
def scanBound? (text : List Char) : Option (Option Nat × List Char) :=
  match (['{', '0', ',']).isPrefixOf? text with
  | none => some (none, text)
  | some text =>
    match text.takeWhile Char.isDigit, text.dropWhile Char.isDigit with
    | d :: digits, '}' :: rest => some (some (Nat.ofDigitChars 10 (d :: digits) 0), rest)
    | _, _ => none

/-- The token at the front of the text, and the rest. -/
def next? : List Char → Option (Token × List Char)
  | [] => none
  | c :: rest =>
    if c = '^' then some (anchor .textStart, rest)
    else if c = '$' then some (anchor .textEnd, rest)
    else if c = '|' then some (bar, rest)
    else if c = '(' then (scanOpening? rest).map fun (o, rest) => (opening o, rest)
    else if c = ')' then (scanBound? rest).map fun (bound, rest) => (close bound, rest)
    else if c = '\\' ∧ rest.head? = some 'b' then some (anchor .wordEdge, rest.tail)
    else
      (scanSet? (c :: rest)).map fun (set, rest) =>
        (take set (scanTimes rest).1, (scanTimes rest).2)

/-- The tokens of the text, of which at most `fuel` are read. -/
def scanUpTo : Nat → List Char → Option (List Token)
  | _, [] => some []
  | 0, _ => none
  | fuel + 1, text =>
    match next? text with
    | none => none
    | some (token, rest) => (scanUpTo fuel rest).map (token :: ·)

/-- The tokens of the text.  A token has at least one character, so there are no more of them than
characters. -/
def scan? (text : List Char) : Option (List Token) :=
  scanUpTo text.length text

end Token

end VerseQuery
