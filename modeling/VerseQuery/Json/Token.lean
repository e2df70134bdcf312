/-
# JSON tokens

The text of a JSON value is cut into tokens: the signs of its structure, and scalar values.
-/
import VerseQuery.DoubleRange
import VerseQuery.Json.Basic

namespace VerseQuery

inductive JsonToken where
  | openArray
  | closeArray
  | openObject
  | closeObject
  | colon
  | comma
  /-- A value without parts. -/
  | scalar (value : Json)
  deriving Repr

namespace JsonToken

/-! ## 1. Strings -/

/-- A piece of a string: a character, or the number of one, which may be half of a pair. -/
inductive Piece where
  | char (c : Char)
  | code (n : Nat)

def hexDigit? (c : Char) : Option Nat :=
  if c.isDigit then some (c.toNat - '0'.toNat)
  else if 'a' ≤ c ∧ c ≤ 'f' then some (c.toNat - 'a'.toNat + 10)
  else if 'A' ≤ c ∧ c ≤ 'F' then some (c.toNat - 'A'.toNat + 10)
  else none

/-- The number that the hexadecimal digits write. -/
def hexValue? (digits : List Char) : Option Nat :=
  digits.foldl (fun n c => n.bind fun n => (hexDigit? c).map (n * 16 + ·)) (some 0)

/-- The character that a backslash and the sign stand for. -/
def escaped? : Char → Option Char
  | '"' => some '"'
  | '\\' => some '\\'
  | '/' => some '/'
  | 'b' => some '\x08'
  | 'f' => some '\x0c'
  | 'n' => some '\n'
  | 'r' => some '\r'
  | 't' => some '\t'
  | _ => none

/-- The pieces of a string up to its closing quote, and the rest. -/
def pieces? : List Char → Option (List Piece × List Char)
  | [] => none
  | '"' :: rest => some ([], rest)
  | '\\' :: 'u' :: a :: b :: c :: d :: rest => do
    let n ← hexValue? [a, b, c, d]
    let (ps, rest) ← pieces? rest
    return (.code n :: ps, rest)
  | '\\' :: sign :: rest => do
    let c ← escaped? sign
    let (ps, rest) ← pieces? rest
    return (.char c :: ps, rest)
  | c :: rest =>
    if c.toNat < 0x20 || c == '\\' then none
    else do
      let (ps, rest) ← pieces? rest
      return (.char c :: ps, rest)

def isHighHalf (n : Nat) : Bool := 0xD800 ≤ n && n < 0xDC00

def isLowHalf (n : Nat) : Bool := 0xDC00 ≤ n && n < 0xE000

/-- The characters that the pieces make up.  The halves of a pair make up one character; a half
without its other half makes up none. -/
def join? : List Piece → Option (List Char)
  | [] => some []
  | .char c :: ps => (join? ps).map (c :: ·)
  | .code high :: .code low :: ps =>
    if isHighHalf high && isLowHalf low then
      (join? ps).map (Char.ofNat (0x10000 + (high - 0xD800) * 0x400 + (low - 0xDC00)) :: ·)
    else if isHighHalf high || isLowHalf high then none
    else (join? (.code low :: ps)).map (Char.ofNat high :: ·)
  | .code n :: ps =>
    if isHighHalf n || isLowHalf n then none else (join? ps).map (Char.ofNat n :: ·)

/-! ## 2. Numbers -/

/-- The digits at the front of the text, of which there is at least one, and the rest. -/
def digits? (text : List Char) : Option (List Char × List Char) :=
  match text.takeWhile Char.isDigit with
  | [] => none
  | digits => some (digits, text.dropWhile Char.isDigit)

/-- The integer part of a number, which begins with a zero only if it is zero, and the rest. -/
def wholePart? : List Char → Option (List Char × List Char)
  | '0' :: rest => some (['0'], rest)
  | text => digits? text

/-- The digits after the point, if there is one, and the rest. -/
def fraction? : List Char → Option (List Char × List Char)
  | '.' :: rest => digits? rest
  | rest => some ([], rest)

/-- The sign and the digits of a power of ten. -/
def signedDigits? : List Char → Option (Int × List Char)
  | '-' :: rest => (digits? rest).map fun (ds, rest) => (-(Nat.ofDigitChars 10 ds 0 : Int), rest)
  | '+' :: rest => (digits? rest).map fun (ds, rest) => ((Nat.ofDigitChars 10 ds 0 : Int), rest)
  | rest => (digits? rest).map fun (ds, rest) => ((Nat.ofDigitChars 10 ds 0 : Int), rest)

/-- The power of ten of a number, if it has one, and the rest. -/
def exponent? : List Char → Option (Option Int × List Char)
  | 'e' :: rest => (signedDigits? rest).map fun (e, rest) => (some e, rest)
  | 'E' :: rest => (signedDigits? rest).map fun (e, rest) => (some e, rest)
  | rest => some (none, rest)

/-- The number that the digits make up after those of `value`, for as long as it has 64 bits, and
how many of them that takes. -/
def foldDigits (value : Nat) : List Char → Nat × Nat
  | [] => (value, 0)
  | d :: ds =>
    let next := value * 10 + (d.toNat - '0'.toNat)
    if next < UInt64.size then
      let (last, count) := foldDigits next ds
      (last, count + 1)
    else (value, 0)

/-- Whether the number with the given parts is within the range of a double.  Digits for which 64
bits have no room are left out; those of the integer part still count as powers of ten. -/
def isReal (whole fraction : List Char) (exponent : Int) : Bool :=
  let (high, wholeCount) := foldDigits 0 whole
  let (mantissa, fractionCount) := foldDigits high fraction
  isProductWithinDouble mantissa
    (exponent + (whole.length - wholeCount : Nat) - (fractionCount : Nat))

/-- The number with the given parts.  Zero with a sign is no integer. -/
def numberOf (negative : Bool) (whole fraction : List Char) (exponent : Option Int) :
    JsonNumber :=
  let mantissa := Nat.ofDigitChars 10 (whole ++ fraction) 0
  let value : Int := if negative then -mantissa else mantissa
  if fraction.isEmpty && exponent.isNone && !(negative && mantissa == 0) &&
      Int64.minValue.toInt ≤ value && value < UInt64.size then
    .integer value
  else .real (isReal whole fraction (exponent.getD 0))

/-- The number at the front of the text, and the rest. -/
def number? (text : List Char) : Option (JsonNumber × List Char) := do
  let (negative, text) := match text with
    | '-' :: rest => (true, rest)
    | rest => (false, rest)
  let (whole, text) ← wholePart? text
  let (fraction, text) ← fraction? text
  let (exponent, text) ← exponent? text
  return (numberOf negative whole fraction exponent, text)

/-! ## 3. Tokens -/

def isSpace (c : Char) : Bool :=
  c == ' ' || c == '\t' || c == '\n' || c == '\r'

/-- The token at the front of a text that does not begin with a space, and the rest. -/
def next? : List Char → Option (JsonToken × List Char)
  | '[' :: rest => some (openArray, rest)
  | ']' :: rest => some (closeArray, rest)
  | '{' :: rest => some (openObject, rest)
  | '}' :: rest => some (closeObject, rest)
  | ':' :: rest => some (colon, rest)
  | ',' :: rest => some (comma, rest)
  | 'n' :: 'u' :: 'l' :: 'l' :: rest => some (scalar .null, rest)
  | 't' :: 'r' :: 'u' :: 'e' :: rest => some (scalar (.bool true), rest)
  | 'f' :: 'a' :: 'l' :: 's' :: 'e' :: rest => some (scalar (.bool false), rest)
  | '"' :: rest =>
    (pieces? rest).map fun (ps, rest) => (scalar (.text ((join? ps).map String.ofList)), rest)
  | text => (number? text).map fun (n, rest) => (scalar (.number n), rest)

/-- The tokens of the text, of which at most `fuel` are read. -/
def scanUpTo : Nat → List Char → Option (List JsonToken)
  | fuel, text =>
    match fuel, text.dropWhile isSpace with
    | _, [] => some []
    | 0, _ => none
    | fuel + 1, text =>
      match next? text with
      | none => none
      | some (token, rest) => (scanUpTo fuel rest).map (token :: ·)

/-- The tokens of the text, of which there are no more than characters. -/
def scan? (text : List Char) : Option (List JsonToken) :=
  scanUpTo text.length text

end JsonToken

end VerseQuery
