/-
# Patterns in the form that machines are made from

Before a machine is made, a pattern is brought into a plainer form: groups are gone, characters that
stand alone side by side are one text, and a choice between single characters is a set.  Each
constructor below has a function that keeps the form: `Form.ofParts` for rows, `Form.oneOf` for
choices and `Form.ofRanges` for sets.
-/
import VerseQuery.Pattern.Basic
import VerseQuery.Text.Ranges

namespace VerseQuery

open Text

/-! ## 1. Sets of characters -/

/-- The ASCII word characters. -/
def asciiWordRanges : Ranges :=
  [(0x30, 0x39), (0x41, 0x5A), (0x5F, 0x5F), (0x61, 0x7A)]

/-- The characters that are compared by ASCII word characters: under folding, the long s and the
Kelvin sign are among them. -/
def CaseMode.asciiWordRanges : CaseMode → Ranges
  | exact => VerseQuery.asciiWordRanges
  | folded => VerseQuery.asciiWordRanges ++ [(0x17F, 0x17F), (0x212A, 0x212A)]

/-- The code points of the set. -/
def CharSet.ranges (mode : CaseMode) : CharSet → Ranges
  | char c => (mode.variants c).foldr (fun d rs => rs.insert d.toNat d.toNat) []
  | word => wordTable.flatMap (·.entries)
  | asciiWord => mode.asciiWordRanges
  | asciiSeparator => mode.asciiWordRanges.complement
  | any => Ranges.complement [(0x0A, 0x0A)]

/-! ## 2. Forms -/

/-- How often a form is taken; more is preferred to less. -/
inductive Repetition where
  | optional
  | star
  | plus
  /-- At most so many times, but more than once. -/
  | upTo (bound : Nat)
  deriving DecidableEq, Repr

/-- A pattern to make a machine from. -/
inductive Form where
  | empty
  | text (chars : List Char)
  | set (ranges : Ranges)
  | place (anchor : Anchor)
  | repeated (times : Repetition) (body : Form)
  | row (parts : List Form)
  | choice (alternatives : List Form)
  deriving Repr

namespace Form

/-- Any character of the set. -/
def ofRanges : Ranges → Form
  | [(first, last)] => if first = last then text [Char.ofNat first] else set [(first, last)]
  | ranges => set ranges

/-- A part of a row in front of others. -/
def joinPart : Form → List Form → List Form
  | text cs, text ds :: parts => text (cs ++ ds) :: parts
  | part, parts => part :: parts

/-- A form in front of the parts of a row. -/
def join : Form → List Form → List Form
  | empty, parts => parts
  | row first, parts => first.foldr joinPart parts
  | part, parts => joinPart part parts

/-- The parts one after another. -/
def ofParts : List Form → Form
  | [] => empty
  | [part] => part
  | parts => row parts

/-- The alternatives that the form stands for in a choice. -/
def alternatives : Form → List Form
  | choice fs => fs
  | f => [f]

/-- The set of the one character that the form is, if it is one. -/
def single? : Form → Option Ranges
  | text [c] => some [(c.toNat, c.toNat)]
  | _ => none

/-- The set that the form is, if it is one of more than one character. -/
def set? : Form → Option Ranges
  | set rs => some rs
  | _ => none

/-- Any one of the forms. -/
def oneOf (fs : List Form) : Form :=
  match fs.flatMap alternatives with
  | [f] => f
  | fs =>
    match fs.mapM single?, fs.mapM set? with
    | some sets, _ => ofRanges (sets.foldr Ranges.union [])
    | none, some sets => ofRanges (sets.foldr Ranges.union [])
    | none, none => choice fs

/-- The form taken as often as said. -/
def repeatUpTo (body : Form) : Nat → Form
  | 0 => empty
  | 1 => repeated .optional body
  | bound => repeated (.upTo bound) body

def taken (body : Form) : Times → Form
  | .once => body
  | .optional => repeated .optional body
  | .star => repeated .star body
  | .plus => repeated .plus body

end Form

/-! ## 3. Patterns as forms -/

namespace Pattern

/-- The parts of a sequence, or the alternatives of a choice.  What is said of the text ahead is not
for a machine to find out. -/
def forms (mode : CaseMode) : {kind : PatternKind} → Pattern kind → List Form
  | _, done => []
  | _, take set times next =>
    Form.join ((Form.ofRanges (set.ranges mode)).taken times) (next.forms mode)
  | _, anchor a next => Form.join (.place a) (next.forms mode)
  | _, group body next => Form.join (Form.oneOf (body.forms mode)) (next.forms mode)
  | _, upTo bound body next =>
    Form.join ((Form.oneOf (body.forms mode)).repeatUpTo bound) (next.forms mode)
  | _, ahead _ _ next => next.forms mode
  | _, last only => [Form.ofParts (only.forms mode)]
  | _, orElse first others => Form.ofParts (first.forms mode) :: others.forms mode

/-- The form of the pattern. -/
def form (mode : CaseMode) (p : Pattern .sequence) : Form :=
  Form.ofParts (p.forms mode)

end Pattern

end VerseQuery
