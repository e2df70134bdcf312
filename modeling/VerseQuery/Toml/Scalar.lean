/-
# Numbers, dates and truth values in TOML

A value of these kinds is a word of letters, digits and a few signs, none of which can stand behind
it.  So the whole word has to be of one of the forms below.
-/
import VerseQuery.Json.Token
import VerseQuery.Toml.Basic

namespace VerseQuery.Toml

/-! ## 1. Numbers -/

/-- The digits of the text without the low lines between them. -/
def digits? (isDigit : Char → Bool) : List Char → Option (List Char)
  | [] => none
  | [c] => if isDigit c then some [c] else none
  | c :: '_' :: rest => if isDigit c then (digits? isDigit rest).map (c :: ·) else none
  | c :: rest => if isDigit c then (digits? isDigit rest).map (c :: ·) else none

/-- The digits of a whole number, which begins with a zero only if it is zero. -/
def whole? : List Char → Option (List Char)
  | ['0'] => some ['0']
  | '0' :: _ => none
  | text => digits? Char.isDigit text

/-- Whether the text begins with a minus, and the text without its sign. -/
def splitSign : List Char → Bool × List Char
  | '-' :: rest => (true, rest)
  | '+' :: rest => (false, rest)
  | text => (false, text)

/-- The value of digits in a base up to 16. -/
def valueIn (base : Nat) (digits : List Char) : Nat :=
  digits.foldl (fun n c => n * base + (JsonToken.hexDigit? c).getD 0) 0

/-- The integer that the word writes, if it has 64 bits. -/
def integer? (word : List Char) : Option Int := do
  let value : Int ← match word with
    | '0' :: 'x' :: ds => (digits? (fun c => (JsonToken.hexDigit? c).isSome) ds).map (valueIn 16 ·)
    | '0' :: 'o' :: ds => (digits? (fun c => '0' ≤ c && c ≤ '7') ds).map (valueIn 8 ·)
    | '0' :: 'b' :: ds => (digits? (fun c => c == '0' || c == '1') ds).map (valueIn 2 ·)
    | _ =>
      let (negative, ds) := splitSign word
      (whole? ds).map fun ds => if negative then -(valueIn 10 ds : Int) else valueIn 10 ds
  if Int64.minValue.toInt ≤ value ∧ value ≤ Int64.maxValue.toInt then some value else none

/-- The power of ten that the text writes after its sign. -/
def power? (text : List Char) : Option Int :=
  let (negative, ds) := splitSign text
  (digits? Char.isDigit ds).map fun ds =>
    if negative then -(valueIn 10 ds : Int) else valueIn 10 ds

/-- Whether the character begins a power of ten. -/
def isPowerSign (c : Char) : Bool := c == 'e' || c == 'E'

/-- Whether the word writes a fraction: digits with a point or a power of ten, or a name.  One that
is too large to be a number is refused. -/
def isFraction (word : List Char) : Bool :=
  let (negative, text) := splitSign word
  if text == ['i', 'n', 'f'] || text == ['n', 'a', 'n'] then true
  else
    let mantissa := text.takeWhile (!isPowerSign ·)
    let power := match text.dropWhile (!isPowerSign ·) with
      | [] => some none
      | _ :: power => (power? power).map some
    let whole := whole? (mantissa.takeWhile (· != '.'))
    let fraction := match mantissa.dropWhile (· != '.') with
      | [] => some none
      | _ :: ds => (digits? Char.isDigit ds).map some
    match whole, fraction, power with
    | some _, some none, some none => false
    | some ws, some fs, some p =>
      negative || isWithinDouble (valueIn 10 (ws ++ fs.getD []))
        (p.getD 0 - (fs.getD []).length)
    | _, _, _ => false

/-! ## 2. Dates and times -/

/-- The value of exactly so many digits at the front of the text, if it is from `low` up to `high`,
and the rest. -/
def fixed? (count low high : Nat) (text : List Char) : Option (Nat × List Char) :=
  let ds := text.take count
  if ds.length = count ∧ ds.all Char.isDigit ∧ low ≤ valueIn 10 ds ∧ valueIn 10 ds ≤ high then
    some (valueIn 10 ds, text.drop count)
  else none

/-- The text after the sign, if it begins with it. -/
def sign? (sign : Char) : List Char → Option (List Char)
  | c :: rest => if c == sign then some rest else none
  | [] => none

def isLeapYear (year : Nat) : Bool :=
  year % 4 == 0 && (year % 100 != 0 || year % 400 == 0)

def daysIn (year month : Nat) : Nat :=
  if month = 2 then if isLeapYear year then 29 else 28
  else if month = 4 ∨ month = 6 ∨ month = 9 ∨ month = 11 then 30
  else 31

/-- The text after a date. -/
def afterDate? (text : List Char) : Option (List Char) := do
  let (year, text) ← fixed? 4 0 9999 text
  let (month, text) ← fixed? 2 1 12 (← sign? '-' text)
  let (_, text) ← fixed? 2 1 (daysIn year month) (← sign? '-' text)
  return text

/-- The text after a time of day.  A minute may have a leap second. -/
def afterTime? (text : List Char) : Option (List Char) := do
  let (_, text) ← fixed? 2 0 23 text
  let (_, text) ← fixed? 2 0 59 (← sign? ':' text)
  let (_, text) ← fixed? 2 0 60 (← sign? ':' text)
  match text with
  | '.' :: rest =>
    if (rest.takeWhile Char.isDigit).isEmpty then none else return rest.dropWhile Char.isDigit
  | _ => return text

/-- Whether the text is the distance of a local time from universal time, or nothing. -/
def isOffset : List Char → Bool
  | [] => true
  | ['Z'] => true
  | ['z'] => true
  | sign :: text =>
    (sign == '+' || sign == '-') &&
      match fixed? 2 0 23 text with
      | some (_, ':' :: text) =>
        match fixed? 2 0 59 text with
        | some (_, []) => true
        | _ => false
      | _ => false

/-- Whether the text is a time of day, which may have an offset. -/
def isTimeWithOffset (text : List Char) : Bool :=
  match afterTime? text with
  | some rest => isOffset rest
  | none => false

/-- Whether the word is a date, a time of day, or both. -/
def isDate (word : List Char) : Bool :=
  match afterDate? word with
  | some [] => true
  | some (sep :: rest) => (sep == 'T' || sep == 't') && isTimeWithOffset rest
  | none => afterTime? word == some []

/-! ## 3. Words -/

/-- The characters of which words are made. -/
def isWordSign (c : Char) : Bool :=
  c.isAlphanum || c == '+' || c == '-' || c == '_' || c == '.' || c == ':'

/-- The value that the word writes. -/
def ofWord? (word : List Char) : Option Toml :=
  if word == ['t', 'r', 'u', 'e'] then some (.bool true)
  else if word == ['f', 'a', 'l', 's', 'e'] then some (.bool false)
  else
    match integer? word with
    | some n => some (.integer n)
    | none =>
      if isFraction word then some .fraction
      else if isDate word then some .date
      else none

/-- The value that the word at the front of the text writes, and the rest.  A date may be followed
by a space and a time of day. -/
def scalar? (text : List Char) : Option (Toml × List Char) :=
  let word := text.takeWhile isWordSign
  let rest := text.dropWhile isWordSign
  match afterDate? word, rest with
  | some [], ' ' :: later =>
    let time := later.takeWhile isWordSign
    if time.isEmpty then some (.date, rest)
    else if isTimeWithOffset time then some (.date, later.dropWhile isWordSign)
    else none
  | _, _ => (ofWord? word).map fun value => (value, rest)

end VerseQuery.Toml
