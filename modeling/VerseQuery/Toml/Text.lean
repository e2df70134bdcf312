/-
# Text in TOML

White space, comments, strings of the four kinds, and keys.  Each reader takes what it reads from
the front of the text and gives back the rest.
-/

namespace VerseQuery.Toml

/-! ## 1. Space and comments -/

/-- A space within a line. -/
def isSpace (c : Char) : Bool :=
  c == ' ' || c == '\t'

/-- Whether a comment or a string may hold the character as it is: all but the control characters
other than the tab. -/
def isPlain (c : Char) : Bool :=
  c == '\t' || (0x20 ≤ c.toNat && c.toNat != 0x7F)

def skipSpace (text : List Char) : List Char :=
  text.dropWhile isSpace

/-- The text after space, line breaks and comments; `inComment` tells whether it begins inside a
comment. -/
def skipLines? (inComment : Bool) : List Char → Option (List Char)
  | [] => some []
  | '\n' :: rest => skipLines? false rest
  | '\r' :: '\n' :: rest => skipLines? false rest
  | c :: rest =>
    if inComment then
      if isPlain c then skipLines? true rest else none
    else if isSpace c then skipLines? false rest
    else if c == '#' then skipLines? true rest
    else some (c :: rest)

/-- The text after the comment, if it is one, up to the end of the line. -/
def skipComment : List Char → List Char
  | '#' :: rest => rest.dropWhile isPlain
  | text => text

/-- The text after the end of a line, in front of which there is at most a comment. -/
def endLine? (text : List Char) : Option (List Char) :=
  match skipComment (skipSpace text) with
  | [] => some []
  | '\n' :: rest => some rest
  | '\r' :: '\n' :: rest => some rest
  | _ => none

/-! ## 2. Strings -/

def hexDigit? (c : Char) : Option Nat :=
  if c.isDigit then some (c.toNat - '0'.toNat)
  else if 'a' ≤ c ∧ c ≤ 'f' then some (c.toNat - 'a'.toNat + 10)
  else if 'A' ≤ c ∧ c ≤ 'F' then some (c.toNat - 'A'.toNat + 10)
  else none

/-- The character whose number the hexadecimal digits write. -/
def coded? (digits : List Char) : Option Char := do
  let n ← digits.foldl (fun n c => n.bind fun n => (hexDigit? c).map (n * 16 + ·)) (some 0)
  if n.isValidChar then some (Char.ofNat n) else none

/-- The character that a backslash and the sign stand for. -/
def escaped? : Char → Option Char
  | 'b' => some '\x08'
  | 't' => some '\t'
  | 'n' => some '\n'
  | 'f' => some '\x0c'
  | 'r' => some '\r'
  | '"' => some '"'
  | '\\' => some '\\'
  | _ => none

/-- Puts characters in front of what was read. -/
def prepend (cs : List Char) (read : Option (List Char × List Char)) :
    Option (List Char × List Char) :=
  read.map fun (more, rest) => (cs ++ more, rest)

/-- The character that the signs behind a backslash stand for, and the rest. -/
def escape? : List Char → Option (Char × List Char)
  | 'u' :: a :: b :: c :: d :: rest => (coded? [a, b, c, d]).map (·, rest)
  | 'U' :: a :: b :: c :: d :: e :: f :: g :: h :: rest =>
    (coded? [a, b, c, d, e, f, g, h]).map (·, rest)
  | sign :: rest => (escaped? sign).map (·, rest)
  | [] => none

/-- The text after spaces and line breaks. -/
def skipBlank : List Char → List Char
  | '\n' :: rest => skipBlank rest
  | '\r' :: '\n' :: rest => skipBlank rest
  | c :: rest => if isSpace c then skipBlank rest else c :: rest
  | [] => []

/-- The text after a line break and the space and line breaks behind it.  There may be space in
front of the line break. -/
def lineBreak? (text : List Char) : Option (List Char) :=
  match skipSpace text with
  | '\n' :: rest => some (skipBlank rest)
  | '\r' :: '\n' :: rest => some (skipBlank rest)
  | _ => none

/-- The characters of a string on one line, up to its closing quote.  One step is taken for each
character or escape. -/
def basicString? : (steps : Nat) → List Char → Option (List Char × List Char)
  | _, '"' :: rest => some ([], rest)
  | steps + 1, '\\' :: rest =>
    match escape? rest with
    | some (c, rest) => prepend [c] (basicString? steps rest)
    | none => none
  | steps + 1, c :: rest => if isPlain c then prepend [c] (basicString? steps rest) else none
  | _, _ => none

/-- The characters of a string without escapes on one line, up to its closing quote. -/
def literalString? : List Char → Option (List Char × List Char)
  | [] => none
  | '\'' :: rest => some ([], rest)
  | c :: rest => if isPlain c then prepend [c] (literalString? rest) else none

/-- A run of quotes inside a string of several lines, and the rest.  Three of them or more end the
string, and then at most two that come first belong to it. -/
structure QuoteRun where
  kept : List Char
  ends : Bool
  rest : List Char

/-- The run of quotes at the front of the text. -/
def quoteRun (quote : Char) (text : List Char) : QuoteRun :=
  let count := (text.takeWhile (· == quote)).length
  if count < 3 then ⟨List.replicate count quote, false, text.drop count⟩
  else ⟨List.replicate (min count 5 - 3) quote, true, text.drop (min count 5)⟩

/-- The characters of a string of several lines, up to its closing quotes.  One step is taken for
each run of quotes, escape or character. -/
def longBasicString? : (steps : Nat) → List Char → Option (List Char × List Char)
  | steps + 1, '"' :: rest =>
    let run := quoteRun '"' ('"' :: rest)
    if run.ends then some (run.kept, run.rest)
    else prepend run.kept (longBasicString? steps run.rest)
  | steps + 1, '\\' :: rest =>
    match lineBreak? rest, escape? rest with
    | some rest, _ => longBasicString? steps rest
    | none, some (c, rest) => prepend [c] (longBasicString? steps rest)
    | none, none => none
  | steps + 1, '\r' :: '\n' :: rest => prepend ['\n'] (longBasicString? steps rest)
  | steps + 1, c :: rest =>
    if isPlain c || c == '\n' then prepend [c] (longBasicString? steps rest) else none
  | _, _ => none

/-- The characters of a string without escapes of several lines, up to its closing quotes. -/
def longLiteralString? : (steps : Nat) → List Char → Option (List Char × List Char)
  | steps + 1, '\'' :: rest =>
    let run := quoteRun '\'' ('\'' :: rest)
    if run.ends then some (run.kept, run.rest)
    else prepend run.kept (longLiteralString? steps run.rest)
  | steps + 1, '\r' :: '\n' :: rest => prepend ['\n'] (longLiteralString? steps rest)
  | steps + 1, c :: rest =>
    if isPlain c || c == '\n' then prepend [c] (longLiteralString? steps rest) else none
  | _, _ => none

/-- The text without a line break at its front, which a string of several lines may begin with. -/
def skipFirstBreak : List Char → List Char
  | '\n' :: rest => rest
  | '\r' :: '\n' :: rest => rest
  | text => text

/-- The string at the front of the text, and the rest. -/
def string? : List Char → Option (List Char × List Char)
  | '"' :: '"' :: '"' :: rest => longBasicString? (rest.length + 1) (skipFirstBreak rest)
  | '"' :: rest => basicString? rest.length rest
  | '\'' :: '\'' :: '\'' :: rest => longLiteralString? (rest.length + 1) (skipFirstBreak rest)
  | '\'' :: rest => literalString? rest
  | _ => none

/-! ## 3. Keys -/

/-- Whether a key without quotes may hold the character. -/
def isBareKeyChar (c : Char) : Bool :=
  c.isAlphanum || c == '_' || c == '-'

/-- One part of a key, and the rest. -/
def keyPart? : List Char → Option (String × List Char)
  | '"' :: rest => (basicString? rest.length rest).map fun (cs, rest) => (String.ofList cs, rest)
  | '\'' :: rest => (literalString? rest).map fun (cs, rest) => (String.ofList cs, rest)
  | text =>
    match text.takeWhile isBareKeyChar with
    | [] => none
    | cs => some (String.ofList cs, text.dropWhile isBareKeyChar)

/-- The parts of a key, of which there are at most so many, and the rest.  They are separated by
points, and there may be space around each. -/
def keyUpTo? : (parts : Nat) → List Char → Option (List String × List Char)
  | 0, _ => none
  | parts + 1, text =>
    match keyPart? (skipSpace text) with
    | none => none
    | some (part, rest) =>
      match skipSpace rest with
      | '.' :: rest => (keyUpTo? parts rest).map fun (key, rest) => (part :: key, rest)
      | rest => some ([part], rest)

/-- How deep values may be nested, and how many parts a key may have. -/
def depthLimit : Nat := 79

/-- The key at the front of the text, and the rest. -/
def key? (text : List Char) : Option (List String × List Char) :=
  keyUpTo? depthLimit text

end VerseQuery.Toml
