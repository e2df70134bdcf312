/-
# Pattern trees

A pattern is a tree of the few forms that searches are made of: characters taken once or repeated,
anchors, groups, a bounded repetition of a group, and assertions about the text ahead.

A tree is either a **sequence**, read from its first element on, or a **choice** between sequences.
Each element holds the sequence that comes after it, so a text that spells a pattern spells one
tree only (`Pattern.Reader`).
-/
import VerseQuery.Text.CaseFold
import VerseQuery.Text.WordChar

namespace VerseQuery

open Text

/-! ## 1. The parts of a pattern -/

/-- Whether characters that differ in case only count as one. -/
inductive CaseMode where
  | exact
  | folded
  deriving DecidableEq, Repr

/-- What a character is compared by. -/
def CaseMode.key : CaseMode → Char → Char
  | exact, c => c
  | folded, c => foldChar c

/-- The characters that count as the given one, in rising order. -/
def CaseMode.variants : CaseMode → Char → List Char
  | exact, c => [c]
  | folded, c => caseVariants c

/-- Whether no other character counts as the given one. -/
def CaseMode.isSingle (mode : CaseMode) (c : Char) : Bool :=
  (mode.variants c).length == 1

/-- The sets of characters a pattern can name. -/
inductive CharSet where
  /-- One character. -/
  | char (c : Char)
  /-- The word characters. -/
  | word
  /-- The ASCII word characters. -/
  | asciiWord
  /-- All but the ASCII word characters. -/
  | asciiSeparator
  /-- All but the line feed. -/
  | any
  deriving DecidableEq, Repr

/-- Whether the set holds the character.  Under folding a set that is written out holds each
character that folds to one of its own; the word characters are closed under folding already. -/
def CharSet.has (mode : CaseMode) : CharSet → Char → Bool
  | char d, c => mode.key c == mode.key d
  | word, c => isWordChar c
  | asciiWord, c => isAsciiWordChar (mode.key c)
  | asciiSeparator, c => !isAsciiWordChar (mode.key c)
  | any, c => c != '\n'

/-- How often a character set is taken; more is preferred to less. -/
inductive Times where
  | once
  | optional
  | star
  | plus
  deriving DecidableEq, Repr

/-- The conditions on a place in a text. -/
inductive Anchor where
  | textStart
  | textEnd
  | wordEdge
  deriving DecidableEq, Repr

/-! ## 2. Trees -/

/-- The two kinds of tree. -/
inductive PatternKind where
  | sequence
  | choice
  deriving DecidableEq, Repr

/-- A pattern tree. -/
inductive Pattern : PatternKind → Type where
  /-- The end of a sequence. -/
  | done : Pattern .sequence
  /-- Characters of a set. -/
  | take (set : CharSet) (times : Times) (next : Pattern .sequence) : Pattern .sequence
  /-- A condition on the place. -/
  | anchor (anchor : Anchor) (next : Pattern .sequence) : Pattern .sequence
  /-- A choice inside a sequence. -/
  | group (body : Pattern .choice) (next : Pattern .sequence) : Pattern .sequence
  /-- A choice made again and again, at most `bound` times. -/
  | upTo (bound : Nat) (body : Pattern .choice) (next : Pattern .sequence) : Pattern .sequence
  /-- The text ahead matches the choice, if `holds`, and else does not. -/
  | ahead (holds : Bool) (body : Pattern .choice) (next : Pattern .sequence) : Pattern .sequence
  /-- A choice of one. -/
  | last (only : Pattern .sequence) : Pattern .choice
  /-- The first alternative, or else one of the others. -/
  | orElse (first : Pattern .sequence) (others : Pattern .choice) : Pattern .choice
  deriving Repr

namespace Pattern

/-- A pattern and then another.  A choice is followed by the other pattern in each of its
alternatives. -/
def append : {kind : PatternKind} → Pattern kind → Pattern .sequence → Pattern kind
  | _, done, q => q
  | _, take set times next, q => take set times (next.append q)
  | _, anchor a next, q => anchor a (next.append q)
  | _, group body next, q => group body (next.append q)
  | _, upTo bound body next, q => upTo bound body (next.append q)
  | _, ahead holds body next, q => ahead holds body (next.append q)
  | _, last only, q => last (only.append q)
  | _, orElse first others, q => orElse (first.append q) (others.append q)

instance : Append (Pattern .sequence) := ⟨append⟩

theorem append_done {kind : PatternKind} (p : Pattern kind) : p.append done = p := by
  induction p <;> simp_all [append]

theorem append_assoc {kind : PatternKind} (p : Pattern kind) (q r : Pattern .sequence) :
    (p.append q).append r = p.append (q.append r) := by
  induction p <;> simp_all [append]

/-- The patterns one after another. -/
def concat (ps : List (Pattern .sequence)) : Pattern .sequence :=
  ps.foldr append done

/-- The characters, each taken once. -/
def literal (cs : List Char) : Pattern .sequence :=
  cs.foldr (fun c next => take (.char c) .once next) done

/-- A choice between a first pattern and others. -/
def choiceOf (first : Pattern .sequence) : List (Pattern .sequence) → Pattern .choice
  | [] => last first
  | second :: others => orElse first (choiceOf second others)

/-- Any one of the patterns.  One alone needs no group, and none is the empty pattern. -/
def oneOf : List (Pattern .sequence) → Pattern .sequence
  | [] => done
  | [p] => p
  | p :: q :: ps => group (choiceOf p (q :: ps)) done

/-- The literal with a word edge at both its ends. -/
def wholeWord (cs : List Char) : Pattern .sequence :=
  anchor .wordEdge (literal cs ++ anchor .wordEdge done)

end Pattern

end VerseQuery
