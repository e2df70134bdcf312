/-
# Compiling a request

A request becomes one pattern, the constraints in front and the body behind, with a description, a
cost, an estimate of the volume of results and perhaps a warning.  Compiling fails for two reasons
only: there is nothing to search for, or a machine would take more bytes than the settings allow.
-/
import VerseQuery.Machine.Size
import VerseQuery.Pattern.Factor
import VerseQuery.Pattern.Printer
import VerseQuery.Query.Body
import VerseQuery.Query.Constraints
import VerseQuery.Query.Description
import VerseQuery.Query.Error
import VerseQuery.Query.Event
import VerseQuery.Settings
import VerseQuery.Synonyms.Expansion

namespace VerseQuery

open Text

/-! ## 1. Compiled queries -/

/-- How a pattern is to be run. -/
structure Flags where
  ignoreCase : Bool
  /-- Whether all matches are wanted. -/
  global : Bool
  deriving DecidableEq, Repr

namespace Flags

/-- The flags as letters. -/
def text (f : Flags) : String :=
  (if f.global then "g" else "") ++ (if f.ignoreCase then "i" else "")

def caseMode (f : Flags) : CaseMode :=
  if f.ignoreCase then .folded else .exact

end Flags

/-- A pattern ready to be run: its constraints and its body, and the text that spells both. -/
structure QueryPattern where
  constraints : Constraints
  body : Pattern .sequence
  flags : Flags

namespace QueryPattern

/-- The tree of the whole pattern. -/
def tree (q : QueryPattern) : Pattern .sequence :=
  q.constraints.lookaheads ++ q.body

/-- The text of the whole pattern. -/
def source (q : QueryPattern) : String :=
  q.tree.render

/-- The pattern between slashes, followed by its flags. -/
def display (q : QueryPattern) : String :=
  "/" ++ q.source ++ "/" ++ q.flags.text

/-- Two patterns are taken for equal when their texts and flags are. -/
instance : BEq QueryPattern :=
  ⟨fun a b => a.source == b.source && a.flags == b.flags⟩

/-- Whether the text keeps the constraints. -/
def constraintsHold (q : QueryPattern) (text : String) : Bool :=
  q.constraints.hold q.flags.caseMode text.toList

/-- Whether the text is a result. -/
def isMatch (q : QueryPattern) (text : String) : Bool :=
  q.constraintsHold text && q.body.matchesText q.flags.caseMode text.toList

/-- What is to be highlighted in the text, in characters: the spans of the body with its choices
factored. -/
def spans (q : QueryPattern) (text : String) : List Span :=
  if q.constraintsHold text then
    (q.body.factored q.flags.caseMode).spans q.flags.caseMode text.toList
  else []

/-- What is to be highlighted in the text, in bytes. -/
def byteSpans (q : QueryPattern) (text : String) : List Span :=
  (q.spans text).map (·.inBytes text.toList)

/-- The patterns that are searched for one by one. -/
def parts (q : QueryPattern) : List (Pattern .sequence) :=
  q.body :: q.constraints.required ++ q.constraints.excluded

/-- Whether the search for each part can do with so many bytes. -/
def fits (limit : UInt64) (q : QueryPattern) : Bool :=
  q.parts.all fun p =>
    ((p.factored q.flags.caseMode).form q.flags.caseMode).fits limit.toNat

end QueryPattern

structure CompiledQuery where
  pattern : QueryPattern
  description : String
  cost : Nat
  volume : Volume
  warning : Option Warning
  /-- The scope of the request, handed on as it is. -/
  scope : Scope
  deriving BEq

/-- What was asked for, and what was reported on the way. -/
structure Outcome (α : Type) where
  result : Except QueryError α
  events : List Event := []

/-! ## 2. Compiling -/

namespace Settings

/-- How many synonyms a word may contribute to the request. -/
def synonymLimit (s : Settings) (r : Request) : Nat :=
  (r.synonymCap.getD s.synonymCap).toNat

/-- The warning for a query of the given cost and volume. -/
def warningFor (s : Settings) (cost : Nat) (volume : Volume) : Option Warning :=
  if volume = .extreme then some .extreme
  else if volume.needsWarning || s.warningThreshold.toNat < cost then some .broad
  else none

/-- The synonyms that the request is searched for with. -/
def synonymsFor (s : Settings) (r : Request) : Option Expansion → List String
  | none => []
  | some e => if r.synonyms then e.flatten (s.synonymLimit r) (trim r.text) else []

end Settings

namespace Request

/-- What the request searches for: the rules if there are any of use, or else the text or one of
the synonyms. -/
def body (r : Request) (synonyms : List String) : Pattern .sequence :=
  if r.usableRules.isEmpty then textBody (trim r.text) r.mode r.plurals synonyms
  else proximityBody r.usableRules

def flags (r : Request) : Flags :=
  ⟨r.ignoreCase, true⟩

/-- The pattern of the request, searched for with the given synonyms. -/
def pattern (r : Request) (synonyms : List String) : QueryPattern :=
  ⟨Constraints.ofTerms r.required r.excluded, r.body synonyms, r.flags⟩

end Request

namespace CompiledQuery

/-- What is reported of a query that was compiled. -/
def events (q : CompiledQuery) : List Event :=
  .compiled q.pattern.source q.pattern.flags.text q.cost q.volume ::
    q.warning.toList.map fun w => .warned w q.cost q.volume

end CompiledQuery

namespace Settings

/-- The query for the request, searched for with the given synonyms. -/
def assemble (s : Settings) (r : Request) (synonyms : List String) : CompiledQuery :=
  let pattern := r.pattern synonyms
  let source := pattern.source
  let cost := cost source
  let volume := estimateVolume source r.text
  { pattern
    description := r.describe synonyms.length
    cost
    volume
    warning := s.warningFor cost volume
    scope := r.scope }

/-- Compiles the request.  The expansion counts only if the request asks for synonyms. -/
def compile (s : Settings) (r : Request) (expansion : Option Expansion) :
    Outcome CompiledQuery :=
  if r.hasInput then
    let query := s.assemble r (s.synonymsFor r expansion)
    if query.pattern.fits s.sizeLimit then ⟨.ok query, query.events⟩
    else ⟨.error (.tooLarge query.pattern.source s.sizeLimit), []⟩
  else ⟨.error .emptyQuery, []⟩

end Settings

end VerseQuery
