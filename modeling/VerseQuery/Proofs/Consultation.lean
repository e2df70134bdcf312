/-
# Asking a synonym service

A service is asked for one word after another, and either answers them all or fails on one, which
ends the consultation.  Both are said here without the recursion that does the asking.

* **All answered.**  `Service.Answers` holds the whole answers, as long as they are.  Those that are
  kept are cut to the limit, and the list of alternatives is cut to the same limit when it is made,
  so the first cut does not show in the query (`Expansion.flatten_map_upTo`,
  `Service.Answers.exists_resolved`).
* **One failed.**  `Service.Fails` holds what was answered before, and the error, which may be any.
  That error, as it is, is all that comes of the consultation, and there is no query then.

Both ways, `Service.Answered` says which calls were answered, and from them follow the calls that
were made and what was reported on the way (`resolve_asks_in_turn`).

Rules come before the text of a request, and a search for rules has no use for synonyms.  The
service is asked all the same if the request wants synonyms, so its failure stops such a search as
well (`failure_stops_rules`); but for that nothing of it depends on the service
(`Settings.compile_of_rules`).
-/
import VerseQuery.Proofs.Expansions
import VerseQuery.Synonyms.Service

namespace VerseQuery

open Text

/-! ## 1. Answers that are cut -/

/-- The set with at most so many of its synonyms. -/
def SynonymSet.upTo (limit : Nat) (set : SynonymSet) : SynonymSet :=
  { set with synonyms := set.synonyms.take limit }

/-- **A cut to the limit does not show among the alternatives**, which are cut to it anyway. -/
theorem Expansion.flatten_map_upTo (sets : List SynonymSet) (limit : Nat) (text : String) :
    flatten ⟨sets.map (·.upTo limit)⟩ limit text = flatten ⟨sets⟩ limit text := by
  have hcut : ∀ set : SynonymSet, (set.upTo limit).synonyms.take limit = set.synonyms.take limit := by
    intro set
    rw [SynonymSet.upTo, List.take_take, Nat.min_self]
  rw [flatten, flatten, candidates, candidates, List.flatMap_map]
  simp only [hcut]

/-- With a limit of none there are no alternatives. -/
theorem Expansion.flatten_zero (e : Expansion) (text : String) : e.flatten 0 text = [] := by
  rw [List.eq_nil_iff_forall_not_mem]
  intro x hx
  obtain ⟨-, -, set, -, synonym, hsynonym, -⟩ := mem_flatten_iff.1 hx
  rw [List.take_zero] at hsynonym
  exact absurd hsynonym List.not_mem_nil

/-! ## 2. What comes of asking -/

namespace Service

/-- The service answers each of the words, asked in turn after the earlier calls.  The sets hold
its whole answers. -/
inductive Answers (service : Service) (limit : Nat) :
    List Call → List String → List SynonymSet → Prop
  | nil {earlier : List Call} : service.Answers limit earlier [] []
  | cons {earlier : List Call} {word : String} {words answer : List String}
      {sets : List SynonymSet} (head : service earlier ⟨word, limit⟩ = .ok answer)
      (tail : service.Answers limit (earlier ++ [⟨word, limit⟩]) words sets) :
      service.Answers limit earlier (word :: words) (⟨word, answer⟩ :: sets)

/-- The service fails on one of the words with the error, asked in turn after the earlier calls.
The sets hold its whole answers to the words before that one. -/
inductive Fails (service : Service) (limit : Nat) (error : QueryError) :
    List Call → List String → List SynonymSet → String → Prop
  | here {earlier : List Call} {word : String} {words : List String}
      (h : service earlier ⟨word, limit⟩ = .error error) :
      service.Fails limit error earlier (word :: words) [] word
  | later {earlier : List Call} {word failed : String} {words answer : List String}
      {sets : List SynonymSet} (head : service earlier ⟨word, limit⟩ = .ok answer)
      (tail : service.Fails limit error (earlier ++ [⟨word, limit⟩]) words sets failed) :
      service.Fails limit error earlier (word :: words) (⟨word, answer⟩ :: sets) failed

section Consulting

variable {service : Service} {limit : Nat} {earlier : List Call} {words : List String}
  {sets : List SynonymSet} {failed : String} {error : QueryError}

/-- **There is no third way**: all the words are answered, or the service fails on one. -/
theorem answers_or_fails (service : Service) (limit : Nat) (earlier : List Call)
    (words : List String) : (∃ sets, service.Answers limit earlier words sets) ∨
      ∃ error sets failed, service.Fails limit error earlier words sets failed := by
  induction words generalizing earlier with
  | nil => exact Or.inl ⟨[], .nil⟩
  | cons word words ih =>
    match hword : service earlier ⟨word, limit⟩ with
    | .error error => exact Or.inr ⟨error, [], word, .here hword⟩
    | .ok answer =>
      rcases ih (earlier ++ [⟨word, limit⟩]) with ⟨sets, hsets⟩ | ⟨error, sets, failed, hfails⟩
      · exact Or.inl ⟨_, .cons hword hsets⟩
      · exact Or.inr ⟨error, _, failed, .later hword hfails⟩

/-- What is reported of the answers. -/
def answerEvents (limit : Nat) (sets : List SynonymSet) : List Event :=
  sets.flatMap fun set => Call.events ⟨set.word, limit⟩ set.synonyms

/-- Where all is answered, each word is asked for once and the answers are cut. -/
theorem Answers.consult_eq (h : service.Answers limit earlier words sets) :
    service.consult limit earlier words = ⟨words.map (⟨·, limit⟩),
      ⟨.ok ⟨sets.map (·.upTo limit)⟩, answerEvents limit sets⟩⟩ := by
  induction h with
  | nil => rfl
  | cons head _ ih =>
    rw [consult]
    simp only [head, ih]
    rfl

/-- Where one word fails, no later one is asked for, and nothing but the error is left. -/
theorem Fails.consult_eq (h : service.Fails limit error earlier words sets failed) :
    service.consult limit earlier words = ⟨(sets.map (·.word) ++ [failed]).map (⟨·, limit⟩),
      ⟨.error error, answerEvents limit sets⟩⟩ := by
  induction h with
  | here h =>
    rw [consult]
    simp only [h]
    rfl
  | later head _ ih =>
    rw [consult]
    simp only [head, ih]
    rfl

/-- Each set holds the whole answer to its word, which was asked for after the earlier calls and
those for the words of the sets in front of it. -/
def Answered (service : Service) (limit : Nat) (earlier : List Call) (sets : List SynonymSet) :
    Prop :=
  ∀ before set after, sets = before ++ set :: after →
    service (earlier ++ before.map (⟨·.word, limit⟩)) ⟨set.word, limit⟩ = .ok set.synonyms

theorem Answered.nil : service.Answered limit earlier [] := by
  intro before set after hsets
  exact absurd hsets.symm (by simp)

theorem Answered.cons {set : SynonymSet}
    (head : service earlier ⟨set.word, limit⟩ = .ok set.synonyms)
    (tail : service.Answered limit (earlier ++ [⟨set.word, limit⟩]) sets) :
    service.Answered limit earlier (set :: sets) := by
  intro before later after hsets
  cases before with
  | nil =>
    rw [List.nil_append, List.cons.injEq] at hsets
    rw [List.map_nil, List.append_nil, ← hsets.1]
    exact head
  | cons first before =>
    rw [List.cons_append, List.cons.injEq] at hsets
    rw [List.map_cons, List.append_cons, ← hsets.1]
    exact tail before later after hsets.2

theorem Answers.words_eq (h : service.Answers limit earlier words sets) :
    words = sets.map (·.word) := by
  induction h with
  | nil => rfl
  | cons _ _ ih => rw [ih, List.map_cons]

theorem Answers.answered (h : service.Answers limit earlier words sets) :
    service.Answered limit earlier sets := by
  induction h with
  | nil => exact .nil
  | cons head _ ih => exact .cons head ih

theorem Fails.words_eq (h : service.Fails limit error earlier words sets failed) :
    ∃ unasked, words = sets.map (·.word) ++ failed :: unasked := by
  induction h with
  | here _ => exact ⟨_, rfl⟩
  | later _ _ ih =>
    obtain ⟨unasked, ih⟩ := ih
    exact ⟨unasked, by rw [ih, List.map_cons, List.cons_append]⟩

theorem Fails.answered (h : service.Fails limit error earlier words sets failed) :
    service.Answered limit earlier sets := by
  induction h with
  | here _ => exact .nil
  | later head _ ih => exact .cons head ih

/-- The word that fails was asked for behind all those that were answered. -/
theorem Fails.eq_error (h : service.Fails limit error earlier words sets failed) :
    service (earlier ++ sets.map (⟨·.word, limit⟩)) ⟨failed, limit⟩ = .error error := by
  induction h with
  | here h => rwa [List.map_nil, List.append_nil]
  | later _ _ ih => rwa [List.map_cons, List.append_cons]

end Consulting

end Service

/-- The words that a service is asked for: those of the text if synonyms are wanted, and more than
none. -/
def Request.wordsAsked (r : Request) (limit : Nat) : List String :=
  if r.synonyms && limit != 0 then words r.text else []

namespace Service

variable {service : Service} {s : Settings} {r : Request} {e : Expansion} {error : QueryError}

theorem resolve_eq (service : Service) (r : Request) (limit : Nat) :
    service.resolve r limit = service.consult limit [] (r.wordsAsked limit) :=
  rfl

/-- What was found is compiled, and the reports of both follow each other. -/
theorem outcome_compile_of_ok
    (h : (service.resolve r (s.synonymLimit r)).outcome.result = .ok e) :
    (service.compile s r).outcome = ⟨(s.compile r (some e)).result,
      (service.resolve r (s.synonymLimit r)).outcome.events ++ (s.compile r (some e)).events⟩ := by
  rw [compile]
  simp only [h]

/-- Without synonyms that were found nothing is compiled. -/
theorem result_compile_of_error
    (h : (service.resolve r (s.synonymLimit r)).outcome.result = .error error) :
    (service.compile s r).outcome.result = .error error := by
  rw [compile]
  simp only [h]

end Service

/-! ## 3. What of it a query depends on -/

namespace Settings

variable {s : Settings} {r : Request} {e e' : Option Expansion}

/-- Of an expansion only the alternatives that it makes up count. -/
theorem compile_congr (h : s.synonymsFor r e = s.synonymsFor r e') :
    s.compile r e = s.compile r e' := by
  rw [compile, compile, h]

/-- Where rules are searched for, synonyms do not count at all. -/
theorem compile_of_rules (hrules : r.usableRules ≠ []) (e e' : Option Expansion) :
    s.compile r e = s.compile r e' := by
  have hsame : ∀ synonyms synonyms', s.assemble r synonyms = s.assemble r synonyms' := by
    intro synonyms synonyms'
    have hpattern : r.pattern synonyms = r.pattern synonyms' := by
      rw [Request.pattern, Request.pattern, Request.body_of_rules hrules,
        Request.body_of_rules hrules]
    have hdescription : r.describe synonyms.length = r.describe synonyms'.length := by
      rw [Request.describe, Request.describe, Request.clauses_of_rules hrules,
        Request.clauses_of_rules hrules]
    rw [assemble, assemble, hpattern, hdescription]
  rw [compile, compile, hsame (s.synonymsFor r e) (s.synonymsFor r e')]

end Settings

namespace Service

variable {service : Service} {s : Settings} {r : Request} {sets : List SynonymSet}

/-- **The cut answers make up the alternatives that the whole ones do.**  Where nothing is asked
for, neither make up any. -/
theorem Answers.exists_resolved (h : service.Answers (s.synonymLimit r) [] (words r.text) sets) :
    ∃ e, (service.resolve r (s.synonymLimit r)).outcome.result = .ok e ∧
      s.synonymsFor r (some e) = s.synonymsFor r (some ⟨sets⟩) := by
  rw [resolve_eq, Request.wordsAsked]
  by_cases hasked : (r.synonyms && s.synonymLimit r != 0) = true
  · rw [if_pos hasked, h.consult_eq]
    refine ⟨_, rfl, ?_⟩
    rw [Settings.synonymsFor, Settings.synonymsFor, Expansion.flatten_map_upTo]
  · rw [if_neg hasked]
    refine ⟨⟨[]⟩, rfl, ?_⟩
    have hnone : r.synonyms = false ∨ s.synonymLimit r = 0 := by
      simpa [imp_iff_not_or] using hasked
    rw [Settings.synonymsFor, Settings.synonymsFor]
    rcases hnone with hoff | hzero
    · rw [hoff]
      rfl
    · rw [hzero, Expansion.flatten_zero, Expansion.flatten_zero]

end Service

/-! ## 4. The results -/

/-- **A service is asked for one word of the text after the other, until it fails.**  Where synonyms
are not wanted, or none, it is not asked at all.  Else the sets are its answers, as long as they
are, to the words that it was asked for before it failed, or to all of them.  The error that it
fails with, whatever it is, is all that comes of the consultation, and the words behind it are not
asked for; without one, the answers are cut to the limit.  Of each answer it is reported how much of
it is kept, and before that, if it is longer than the limit, that it was cut. -/
theorem resolve_asks_in_turn (service : Service) (r : Request) (limit : Nat) :
    (r.synonyms = false ∨ limit = 0 → service.resolve r limit = ⟨[], ⟨.ok ⟨[]⟩, []⟩⟩) ∧
    (r.synonyms = true ∧ limit ≠ 0 → ∃ sets, service.Answered limit [] sets ∧
      (service.resolve r limit).outcome.events = (sets.flatMap fun set =>
        (if limit < set.synonyms.length then
          [.truncated set.word set.synonyms.length limit] else []) ++
        [.resolved set.word (min limit set.synonyms.length)]) ∧
      ((words r.text = sets.map (·.word) ∧
          (service.resolve r limit).calls = (words r.text).map (⟨·, limit⟩) ∧
          (service.resolve r limit).outcome.result =
            .ok ⟨sets.map fun set => ⟨set.word, set.synonyms.take limit⟩⟩) ∨
        ∃ failed unasked error, words r.text = sets.map (·.word) ++ failed :: unasked ∧
          service (sets.map (⟨·.word, limit⟩)) ⟨failed, limit⟩ = .error error ∧
          (service.resolve r limit).calls = (sets.map (·.word) ++ [failed]).map (⟨·, limit⟩) ∧
          (service.resolve r limit).outcome.result = .error error)) := by
  have hevents : ∀ sets, Service.answerEvents limit sets = sets.flatMap fun set =>
      (if limit < set.synonyms.length then
        [.truncated set.word set.synonyms.length limit] else []) ++
      [.resolved set.word (min limit set.synonyms.length)] := by
    intro sets
    simp only [Service.answerEvents, Call.events, List.length_take]
  constructor
  · intro hnone
    have hasked : r.wordsAsked limit = [] := by
      rw [Request.wordsAsked, if_neg]
      rcases hnone with hoff | hzero
      · simp [hoff]
      · simp [hzero]
    rw [Service.resolve_eq, hasked]
    rfl
  · rintro ⟨hwanted, hlimit⟩
    have hasked : r.wordsAsked limit = words r.text := by
      rw [Request.wordsAsked, if_pos]
      simp [hwanted, hlimit]
    rw [Service.resolve_eq, hasked]
    rcases Service.answers_or_fails service limit [] (words r.text) with
      ⟨sets, hsets⟩ | ⟨error, sets, failed, hfails⟩
    · rw [hsets.consult_eq]
      exact ⟨sets, hsets.answered, hevents sets, Or.inl ⟨hsets.words_eq, rfl, rfl⟩⟩
    · obtain ⟨unasked, hwords⟩ := hfails.words_eq
      rw [hfails.consult_eq]
      exact ⟨sets, hfails.answered, hevents sets,
        Or.inr ⟨failed, unasked, error, hwords, hfails.eq_error, rfl, rfl⟩⟩

/-- Of four synonyms for a word two are kept. -/
example : (Service.resolve
      (fun _ call => .ok (if call.word = "love" then ["charity", "mercy", "", "care"] else []))
      { text := "of love", synonyms := true } 2).outcome.events =
    [.resolved "of" 0, .truncated "love" 4 2, .resolved "love" 2] := by
  decide +kernel

/-- **To cut the answers before a query is made changes nothing in it.**  If a service answers all
the words of the text, however much it answers, then what comes of asking it is what comes of its
whole answers: the same query, or the same refusal, and the same reports behind those on asking. -/
theorem compile_with_whole_answers {service : Service} {s : Settings} {r : Request}
    {sets : List SynonymSet}
    (h : service.Answers (s.synonymLimit r) [] (words r.text) sets) :
    (service.compile s r).outcome.result = (s.compile r (some ⟨sets⟩)).result ∧
      (service.compile s r).outcome.events =
        (service.resolve r (s.synonymLimit r)).outcome.events ++
          (s.compile r (some ⟨sets⟩)).events := by
  obtain ⟨e, hresolved, hsame⟩ := h.exists_resolved
  rw [Service.outcome_compile_of_ok hresolved, Settings.compile_congr hsame]
  exact ⟨rfl, rfl⟩

/-- A service that answers more than it is asked for, with blanks and the same word again. -/
def talkativeService : Service := fun _ call =>
  if call.word = "love" then .ok ["charity", " charity ", "", "mercy"] else .ok [call.word, "good"]

/-- A search with synonyms that leaves their number to the settings. -/
def kindLoveRequest : Request where
  text := "kind love"
  synonyms := true

/-- Of three synonyms for a word two are kept: a third that is new would have been the fourth. -/
theorem compile_with_whole_answers_love :
    talkativeService.Answers 2 [] (words "kind love")
      [⟨"kind", ["kind", "good"]⟩, ⟨"love", ["charity", " charity ", "", "mercy"]⟩] ∧
    (talkativeService.compile { synonymCap := 2 } kindLoveRequest).outcome.result =
      (Settings.compile { synonymCap := 2 } kindLoveRequest
        (some ⟨[⟨"kind", ["kind", "good"]⟩,
          ⟨"love", ["charity", " charity ", "", "mercy"]⟩]⟩)).result ∧
    ∃ q, (talkativeService.compile { synonymCap := 2 } kindLoveRequest).outcome.result = .ok q ∧
      q.pattern.source = "(?:kind love|kind|good|charity)" := by
  have hwords : words "kind love" = ["kind", "love"] := by decide +kernel
  have hanswers : talkativeService.Answers 2 [] (words "kind love")
      [⟨"kind", ["kind", "good"]⟩, ⟨"love", ["charity", " charity ", "", "mercy"]⟩] := by
    rw [hwords]
    exact .cons rfl (.cons rfl .nil)
  have hresult := (compile_with_whole_answers (s := { synonymCap := 2 }) (r := kindLoveRequest)
    hanswers).1
  have hq := Settings.compile_of_fits (s := { synonymCap := 2 }) (r := kindLoveRequest)
    (e := some ⟨[⟨"kind", ["kind", "good"]⟩, ⟨"love", ["charity", " charity ", "", "mercy"]⟩]⟩)
    (by decide) (by decide +kernel)
  exact ⟨hanswers, hresult, _, hresult.trans hq, by decide +kernel⟩

/-- **A search for rules depends on a service in one way only**: a failure stops it with the error
of the service, if the request wants synonyms and so the service is asked.  If it is not asked, or
does not fail, then what comes of the request is what comes of it without synonyms. -/
theorem rules_with_service {service : Service} {s : Settings} {r : Request}
    (hrule : ∃ rule ∈ r.proximity, rule.isUsable = true) :
    (∀ error sets failed, service.Fails (s.synonymLimit r) error []
        (r.wordsAsked (s.synonymLimit r)) sets failed →
      (service.compile s r).outcome.result = .error error) ∧
    ((∀ error sets failed, ¬service.Fails (s.synonymLimit r) error []
        (r.wordsAsked (s.synonymLimit r)) sets failed) →
      (service.compile s r).outcome.result = (s.compile r none).result) := by
  constructor
  · intro error sets failed hfails
    refine Service.result_compile_of_error ?_
    rw [Service.resolve_eq, hfails.consult_eq]
  · intro hnever
    obtain ⟨rule, hmem, husable⟩ := hrule
    have hrules : r.usableRules ≠ [] :=
      List.ne_nil_of_mem (Request.mem_usableRules.2 ⟨rule, hmem, husable, rfl⟩)
    rcases Service.answers_or_fails service (s.synonymLimit r) []
      (r.wordsAsked (s.synonymLimit r)) with ⟨sets, hsets⟩ | ⟨error, sets, failed, hfails⟩
    · have hresolved := congrArg (·.outcome.result) hsets.consult_eq
      rw [Service.outcome_compile_of_ok hresolved, Settings.compile_of_rules hrules _ none]
    · exact absurd hfails (hnever error sets failed)

/-- A service that knows no word but one. -/
def loveService : Service := fun _ call =>
  if call.word = "love" then .ok ["charity"] else .error ("no service for " ++ call.word)

/-- A service that has lost the file with its synonyms. -/
def lostService : Service := fun _ _ => .error (.file .notFound)

/-- A search for a pair of words, with a text and a wish for synonyms that it does not need. -/
def fearNotRequest (text : String) : Request where
  text := text
  synonyms := true
  proximity := [⟨"fear", "not", 3⟩]

/-- One failure stops the search, whatever it is, and without one it is as if no service had been
asked. -/
theorem rules_with_service_love :
    (∃ rule ∈ (fearNotRequest "love").proximity, rule.isUsable = true) ∧
    (loveService.compile {} (fearNotRequest "love hope")).outcome.result =
      .error (.lookup "no service for hope") ∧
    (lostService.compile {} (fearNotRequest "love")).outcome.result = .error (.file .notFound) ∧
    (loveService.compile {} (fearNotRequest "love")).outcome.result =
      (Settings.compile {} (fearNotRequest "love") none).result := by
  have husable : ∀ text, ∃ rule ∈ (fearNotRequest text).proximity, rule.isUsable = true :=
    fun _ => ⟨_, List.mem_cons_self, by decide⟩
  have hasked : (fearNotRequest "love hope").wordsAsked 10 = ["love", "hope"] := by decide +kernel
  have hasked' : (fearNotRequest "love").wordsAsked 10 = ["love"] := by decide +kernel
  refine ⟨husable "love", ?_, ?_, ?_⟩
  · refine (rules_with_service (s := {}) (husable "love hope")).1 _ [⟨"love", ["charity"]⟩] "hope" ?_
    exact hasked ▸ .later rfl (.here rfl)
  · refine (rules_with_service (s := {}) (husable "love")).1 _ [] "love" ?_
    exact hasked' ▸ .here rfl
  · refine (rules_with_service (s := {}) (husable "love")).2 fun error sets failed hfails => ?_
    have hfails' : loveService.Fails 10 error [] ["love"] sets failed := hasked' ▸ hfails
    cases hfails' with
    | here h => simp [loveService] at h
    | later _ tail => cases tail

/-- **A failure on a word that no rule has stops the search for the rules**, which without the
service is made. -/
theorem failure_stops_rules :
    (∃ rule ∈ (fearNotRequest "hope").proximity, rule.isUsable = true) ∧
    (loveService.compile {} (fearNotRequest "hope")).outcome.result =
      .error (.lookup "no service for hope") ∧
    ∃ q, (Settings.compile {} (fearNotRequest "hope") none).result = .ok q := by
  have hasked : (fearNotRequest "hope").wordsAsked 10 = ["hope"] := by decide +kernel
  have hresolved : (loveService.resolve (fearNotRequest "hope") 10).outcome.result =
      .error (.lookup "no service for hope") := by
    rw [Service.resolve_eq, hasked]
    rfl
  exact ⟨⟨_, List.mem_cons_self, by decide⟩, Service.result_compile_of_error hresolved,
    _, Settings.compile_of_fits (by decide) (by decide +kernel)⟩

end VerseQuery
