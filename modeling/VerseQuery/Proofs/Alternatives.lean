/-
# How many alternatives a query has

A text is asked for word by word, and a word that repeats is asked for again.  A service whose
answers depend on the word and the limit only says the same again then, so what grows with the text
is the number of its distinct words (`Expansion.length_flatten_le`).  A word contributes no more
than the limit, however much the service answers.

`alternatives_bounded` says so of the pattern that is built: of its body, and of the literals that
are read in it.
-/
import Mathlib.Data.List.Dedup
import VerseQuery.Proofs.Consultation
import VerseQuery.Proofs.Growing
import VerseQuery.Proofs.SourceText

namespace VerseQuery

open Text

/-! ## 1. Words that repeat -/

/-- The service answers all calls, and two calls in the same way if they are the same. -/
def Service.IsSteady (service : Service) (answer : String → Nat → List String) : Prop :=
  ∀ earlier call, service earlier call = .ok (answer call.word call.limit)

theorem Service.IsSteady.answers {service : Service} {answer : String → Nat → List String}
    (h : service.IsSteady answer) (limit : Nat) (earlier : List Call) (words : List String) :
    service.Answers limit earlier words (words.map fun word => ⟨word, answer word limit⟩) := by
  induction words generalizing earlier with
  | nil => exact .nil
  | cons word words ih => exact .cons (h earlier ⟨word, limit⟩) (ih _)

/-- **A word contributes once**, and no more than the limit. -/
theorem Expansion.length_flatten_le (answer : String → List String) (words : List String)
    (limit : Nat) (text : String) :
    (flatten ⟨words.map fun word => ⟨word, answer word⟩⟩ limit text).length ≤
      limit * words.dedup.length := by
  have hpool : flatten ⟨words.map fun word => ⟨word, answer word⟩⟩ limit text ⊆
      words.dedup.flatMap fun word => ((answer word).take limit).map trim := by
    intro x hx
    obtain ⟨-, -, set, hset, synonym, hsynonym, rfl⟩ := mem_flatten_iff.1 hx
    obtain ⟨word, hword, rfl⟩ := List.mem_map.1 hset
    exact List.mem_flatMap.2 ⟨word, List.mem_dedup.2 hword, List.mem_map_of_mem hsynonym⟩
  have heach : ∀ n ∈ words.dedup.map fun word => (((answer word).take limit).map trim).length,
      n ≤ limit := by
    intro n hn
    obtain ⟨word, -, rfl⟩ := List.mem_map.1 hn
    rw [List.length_map]
    exact List.length_take_le limit (answer word)
  calc (flatten ⟨words.map fun word => ⟨word, answer word⟩⟩ limit text).length
      ≤ (words.dedup.flatMap fun word => ((answer word).take limit).map trim).length :=
        (nodup_firstSeen _).length_le_of_subset hpool
    _ = (words.dedup.map fun word => (((answer word).take limit).map trim).length).sum :=
        List.length_flatMap
    _ ≤ words.dedup.length * limit := by
        simpa using List.sum_le_card_nsmul _ limit heach
    _ = limit * words.dedup.length := Nat.mul_comm _ _

/-- Asked for the words of a request, the service finds no more synonyms than that for it. -/
theorem Service.IsSteady.exists_resolved {service : Service} {answer : String → Nat → List String}
    (h : service.IsSteady answer) (s : Settings) (r : Request) :
    ∃ e, (service.resolve r (s.synonymLimit r)).outcome.result = .ok e ∧
      (s.synonymsFor r (some e)).length ≤ s.synonymLimit r * (words r.text).dedup.length := by
  obtain ⟨e, hresolved, hsame⟩ :=
    (h.answers (s.synonymLimit r) [] (words r.text)).exists_resolved
  refine ⟨e, hresolved, ?_⟩
  rw [hsame, Settings.synonymsFor]
  split
  · exact Expansion.length_flatten_le _ _ _ _
  · exact Nat.zero_le _

/-! ## 2. The result -/

/-- **A query has one alternative for its text, and at most as many as the limit allows for each
distinct word.**  The text comes first, none is there twice, and none is blank or has blanks at its
ends.  They are the literals of the pattern, which is built whether or not its machine is small
enough. -/
theorem alternatives_bounded {service : Service} {answer : String → Nat → List String}
    {s : Settings} {r : Request} (hservice : service.IsSteady answer)
    (htext : isBlankText r.text = false) (hrules : ∀ rule ∈ r.proximity, rule.isUsable = false) :
    ∃ others : List String,
      (service.compile s r).outcome.source? = some (r.pattern others).source ∧
      (∀ q, (service.compile s r).outcome.result = .ok q → q.pattern = r.pattern others) ∧
      (r.pattern others).body = r.mode.place (alternatives r.plurals (trim r.text :: others)) ∧
      (r.pattern others).body.literals = (trim r.text :: others).map String.toList ∧
      (trim r.text :: others).length ≤ 1 + s.synonymLimit r * (words r.text).dedup.length ∧
      (trim r.text :: others).Nodup ∧
      ∀ alt ∈ trim r.text :: others, trim alt = alt ∧ isBlankText alt = false := by
  obtain ⟨e, hresolved, hlength⟩ := hservice.exists_resolved s r
  have hnone : r.usableRules.isEmpty = true :=
    List.isEmpty_iff.2 (Request.usableRules_eq_nil_iff.2 hrules)
  have hinput : r.hasInput = true := Request.hasInput_iff.2 (Or.inl htext)
  have hliterals : HasLiterals (r.body (s.synonymsFor r (some e))) _ :=
    .body hinput fun _ => s.ne_nil_of_mem_synonymsFor
  refine ⟨s.synonymsFor r (some e), ?_, fun q hq => ?_, ?_, ?_, ?_, Settings.nodup_synonymsFor, ?_⟩
  · rw [Service.outcome_compile_of_ok hresolved]
    exact Settings.source?_compile hinput
  · rw [Service.outcome_compile_of_ok hresolved] at hq
    exact Settings.pattern_of_compile hq
  · rw [Request.pattern, Request.body, if_pos hnone, textBody]
  · rw [Request.pattern, hliterals.eq_literals, Request.bodyWords, if_pos hnone]
  · rw [List.length_cons]
    omega
  · refine List.forall_mem_cons.2 ⟨⟨trim_trim r.text, (isBlankText_trim r.text).trans htext⟩, ?_⟩
    exact fun _ halt => Settings.trim_of_mem_synonymsFor halt

/-- An answer with the word itself, and longer than any limit. -/
def echo (word : String) (limit : Nat) : List String :=
  word :: " charity" :: List.replicate limit "mercy" ++ ["good"]

def echoingService : Service :=
  fun _ call => .ok (echo call.word call.limit)

/-- A search with three synonyms for a word, one of which repeats. -/
def loveInLoveRequest : Request :=
  (Request.ofText " love in love" .contains).withSynonyms 3

/-- Two of the three words are distinct, and there are five alternatives where seven are allowed. -/
theorem alternatives_bounded_love :
    echoingService.IsSteady echo ∧ isBlankText loveInLoveRequest.text = false ∧
    (∀ rule ∈ loveInLoveRequest.proximity, rule.isUsable = false) ∧
    ∃ others, (echoingService.compile {} loveInLoveRequest).outcome.source? =
        some (loveInLoveRequest.pattern others).source ∧
      (loveInLoveRequest.pattern others).source = "(?:love in love|love|charity|mercy|in)" ∧
      (trim loveInLoveRequest.text :: others).length ≤ 1 + 3 * 2 ∧
      (trim loveInLoveRequest.text :: others).Nodup := by
  have hservice : echoingService.IsSteady echo := fun _ _ => rfl
  have htext : isBlankText loveInLoveRequest.text = false := by decide
  have hrules : ∀ rule ∈ loveInLoveRequest.proximity, rule.isUsable = false :=
    fun _ hrule => absurd hrule List.not_mem_nil
  have hsource : (echoingService.compile {} loveInLoveRequest).outcome.source? =
      some "(?:love in love|love|charity|mercy|in)" := by
    decide +kernel
  have hwords : (words loveInLoveRequest.text).dedup.length = 2 := by decide +kernel
  obtain ⟨others, hothers, -, -, -, hlength, hnodup, -⟩ :=
    alternatives_bounded (s := {}) hservice htext hrules
  exact ⟨hservice, htext, hrules, others, hothers,
    Option.some.inj (hothers.symm.trans hsource), hwords ▸ hlength, hnodup⟩

end VerseQuery
