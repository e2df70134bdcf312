/-
# Matching

A place in a text is a cursor: the characters before it, nearest first, and those after it.
`Pattern.ends` lists the cursors at which a match from a given cursor can end, the preferred one
first; it is defined by recursion on the tree, and all else here is defined by it.

* A text **matches** when some cursor of it has an end (`Pattern.matchesText`).
* The **spans** are found by going over the text once: a match is taken at the first place that
  has one, to its preferred end, and the search goes on from there (`Pattern.spans`).
-/
import VerseQuery.Pattern.Basic

namespace VerseQuery

open Text

/-! ## 1. Cursors -/

/-- A place in a text. -/
structure Cursor where
  /-- The characters before the place, nearest first. -/
  before : List Char
  /-- The characters after the place. -/
  after : List Char
  deriving DecidableEq, Repr

namespace Cursor

/-- The start of a text. -/
def start (text : List Char) : Cursor := ⟨[], text⟩

/-- The places after `before` from the front of the given characters to their end. -/
def placesFrom (before : List Char) : List Char → List Cursor
  | [] => [⟨before, []⟩]
  | c :: rest => ⟨before, c :: rest⟩ :: placesFrom (c :: before) rest

/-- All the places in a text, in order. -/
def places (text : List Char) : List Cursor :=
  placesFrom [] text

/-- Whether the first of the characters is a word character. -/
def meetsWord : List Char → Bool
  | [] => false
  | c :: _ => isWordChar c

/-- A word edge has a word character on one side only. -/
def atWordEdge (cur : Cursor) : Bool :=
  meetsWord cur.before != meetsWord cur.after

end Cursor

def Anchor.holds : Anchor → Cursor → Bool
  | textStart, cur => cur.before.isEmpty
  | textEnd, cur => cur.after.isEmpty
  | wordEdge, cur => cur.atWordEdge

/-! ## 2. Ends of matches -/

namespace CharSet

/-- The places that taking characters of the set can lead to, the farthest first and then those
of `nearer`. -/
def reach (mode : CaseMode) (set : CharSet) (nearer : List Cursor) (before : List Char) :
    List Char → List Cursor
  | [] => ⟨before, []⟩ :: nearer
  | c :: rest =>
    if set.has mode c then reach mode set (⟨before, c :: rest⟩ :: nearer) (c :: before) rest
    else ⟨before, c :: rest⟩ :: nearer

/-- The place behind one character of the set. -/
def step (mode : CaseMode) (set : CharSet) (cur : Cursor) : List Cursor :=
  match cur.after with
  | [] => []
  | c :: rest => if set.has mode c then [⟨c :: cur.before, rest⟩] else []

/-- The places behind so many characters of the set, the farthest first. -/
def ends (mode : CaseMode) (set : CharSet) (cur : Cursor) : Times → List Cursor
  | .once => set.step mode cur
  | .optional => set.step mode cur ++ [cur]
  | .star => set.reach mode [] cur.before cur.after
  | .plus => (set.step mode cur).flatMap fun cur => set.reach mode [] cur.before cur.after

end CharSet

/-- The places that at most `bound` steps can lead to, those of more steps preferred. -/
def stepsUpTo (step : Cursor → List Cursor) : Nat → Cursor → List Cursor
  | 0, cur => [cur]
  | bound + 1, cur => (step cur).flatMap (stepsUpTo step bound) ++ [cur]

namespace Pattern

/-- The places at which a match of the tree from the cursor can end, the preferred one first. -/
def ends (mode : CaseMode) : {kind : PatternKind} → Pattern kind → Cursor → List Cursor
  | _, done, cur => [cur]
  | _, take set times next, cur => (set.ends mode cur times).flatMap (next.ends mode)
  | _, anchor a next, cur => if a.holds cur then next.ends mode cur else []
  | _, group body next, cur => (body.ends mode cur).flatMap (next.ends mode)
  | _, upTo bound body next, cur =>
    (stepsUpTo (body.ends mode) bound cur).flatMap (next.ends mode)
  | _, ahead holds body next, cur =>
    if (body.ends mode cur).isEmpty == !holds then next.ends mode cur else []
  | _, last only, cur => only.ends mode cur
  | _, orElse first others, cur => first.ends mode cur ++ others.ends mode cur

/-- A match of one pattern and then another is a match of the second from an end of the first. -/
theorem ends_append (mode : CaseMode) {kind : PatternKind} (p : Pattern kind)
    (q : Pattern .sequence) (cur : Cursor) :
    (p.append q).ends mode cur = (p.ends mode cur).flatMap (q.ends mode) := by
  induction p generalizing cur with
  | done => simp [append, ends]
  | take set times next ih => simp [append, ends, List.flatMap_assoc, funext ih]
  | anchor a next ih =>
    simp only [append, ends]
    split <;> simp [ih]
  | group body next _ ih => simp [append, ends, List.flatMap_assoc, funext ih]
  | upTo bound body next _ ih => simp [append, ends, List.flatMap_assoc, funext ih]
  | ahead holds body next _ ih =>
    simp only [append, ends]
    split <;> simp [ih]
  | last only ih => simp [append, ends, ih]
  | orElse first others ih₁ ih₂ => simp [append, ends, ih₁, ih₂]

/-- Whether the pattern matches somewhere in the text. -/
def matchesText (mode : CaseMode) (p : Pattern .sequence) (text : List Char) : Bool :=
  (Cursor.places text).any fun cur => !(p.ends mode cur).isEmpty

end Pattern

/-! ## 3. Spans -/

/-- A stretch of a text: where it starts, and where the text goes on after it. -/
structure Span where
  start : Nat
  stop : Nat
  deriving DecidableEq, Repr

namespace Pattern

/-- The spans in the characters after `before`, the first `covered` of which belong to a span
already found.  A match without a character in it is no span. -/
def spansFrom (mode : CaseMode) (p : Pattern .sequence) (covered : Nat) (before : List Char) :
    List Char → List Span
  | [] => []
  | c :: rest =>
    match covered with
    | covered + 1 => spansFrom mode p covered (c :: before) rest
    | 0 =>
      match p.ends mode ⟨before, c :: rest⟩ with
      | [] => spansFrom mode p 0 (c :: before) rest
      | stop :: _ =>
        match (c :: rest).length - stop.after.length with
        | 0 => spansFrom mode p 0 (c :: before) rest
        | width + 1 =>
          ⟨before.length, before.length + (width + 1)⟩ :: spansFrom mode p width (c :: before) rest

/-- The spans of the pattern in the text, in order, counted in characters. -/
def spans (mode : CaseMode) (p : Pattern .sequence) (text : List Char) : List Span :=
  p.spansFrom mode 0 [] text

end Pattern

/-- How many bytes the first `count` characters take in UTF-8. -/
def byteOffset (text : List Char) (count : Nat) : Nat :=
  (text.take count).foldr (fun c bytes => c.utf8Size + bytes) 0

/-- The span of the text with both ends counted in bytes. -/
def Span.inBytes (text : List Char) (span : Span) : Span :=
  ⟨byteOffset text span.start, byteOffset text span.stop⟩

end VerseQuery
