/-
# Asking for synonyms

A synonym service is asked for one word of the text after another.  It may fail with any error, and
the error is handed on as it is.  The record of a consultation holds the calls that were made, in
order, next to what came of them.
-/
import VerseQuery.Query.Compile

namespace VerseQuery

open Text

/-- A question to a synonym service: at most `limit` synonyms for the word. -/
structure Call where
  word : String
  limit : Nat
  deriving DecidableEq, Repr

/-- A synonym service answers a call, knowing the calls that came before it, or fails with an error
of its own choice. -/
abbrev Service := (earlier : List Call) → Call → Except QueryError (List String)

/-- What came of asking a service, and the calls that were made. -/
structure Consultation (α : Type) where
  calls : List Call
  outcome : Outcome α

/-- What is reported of an answer: a warning if it is longer than asked for, and then how many of
its synonyms are kept. -/
def Call.events (call : Call) (answer : List String) : List Event :=
  (if call.limit < answer.length then [.truncated call.word answer.length call.limit] else []) ++
    [.resolved call.word (answer.take call.limit).length]

namespace Service

/-- Asks for each of the words in turn, `earlier` being the calls made so far.  The first failure
ends it with the error of the service, and nothing of the earlier answers is kept. -/
def consult (service : Service) (limit : Nat) (earlier : List Call) :
    List String → Consultation Expansion
  | [] => ⟨[], ⟨.ok ⟨[]⟩, []⟩⟩
  | word :: words =>
    let call : Call := ⟨word, limit⟩
    match service earlier call with
    | .error error => ⟨[call], ⟨.error error, []⟩⟩
    | .ok answer =>
      let others := service.consult limit (earlier ++ [call]) words
      let set : SynonymSet := ⟨word, answer.take limit⟩
      { calls := call :: others.calls
        outcome :=
          { result := others.outcome.result.map fun e => ⟨set :: e.sets⟩
            events := call.events answer ++ others.outcome.events } }

/-- The synonyms for the words of the request's text, at most `limit` for each word.  A request
without synonyms, or a limit of none, asks nothing. -/
def resolve (service : Service) (r : Request) (limit : Nat) : Consultation Expansion :=
  service.consult limit [] (if r.synonyms && limit != 0 then words r.text else [])

/-- Asks for the synonyms of the request and compiles it with them. -/
def compile (service : Service) (s : Settings) (r : Request) : Consultation CompiledQuery :=
  let found := service.resolve r (s.synonymLimit r)
  match found.outcome.result with
  | .error e => ⟨found.calls, ⟨.error e, found.outcome.events⟩⟩
  | .ok expansion =>
    let compiled := s.compile r (some expansion)
    ⟨found.calls, ⟨compiled.result, found.outcome.events ++ compiled.events⟩⟩

end Service

end VerseQuery
