/-
# Queries that were compiled

What a successful compilation gives, in the words of the request: the terms and rules that count
are those that are not blank, and a text is a result when it keeps the constraints and one of its
stretches is a match of the body (`isMatch_iff`).
-/
import Mathlib.Data.List.DropRight
import Mathlib.Data.List.TakeWhile
import VerseQuery.Proofs.Pieces
import VerseQuery.Query.Compile

namespace VerseQuery

open Text

/-! ## 1. What counts in a request -/

namespace Text

theorem trimChars_eq_nil_iff {cs : List Char} : trimChars cs = [] ↔ ∀ c ∈ cs, isBlank c = true := by
  rw [trimChars, List.reverse_eq_nil_iff, List.dropWhile_eq_nil_iff]
  constructor
  · intro h
    -- a text that is not blank has a first character that is not, and trimming stops there
    match hd : cs.dropWhile isBlank with
    | [] => exact List.dropWhile_eq_nil_iff.1 hd
    | c :: rest =>
      have hc : isBlank c = false := by
        have hhead := List.head?_dropWhile_not isBlank cs
        rw [hd] at hhead
        exact hhead
      have hblank : isBlank c = true := h c (by rw [hd]; simp)
      exact absurd (hblank.symm.trans hc) (by decide)
  · intro h c hc
    exact h c ((List.dropWhile_sublist isBlank).subset (List.mem_reverse.1 hc))

theorem trim_eq_empty_iff {s : String} : trim s = "" ↔ isBlankText s = true := by
  rw [isBlankText, List.all_eq_true, ← trimChars_eq_nil_iff, trim, ← String.toList_inj,
    String.toList_ofList]
  rfl

theorem trim_ne_empty_iff {s : String} : trim s ≠ "" ↔ isBlankText s = false := by
  rw [ne_eq, trim_eq_empty_iff, Bool.not_eq_true]

theorem trim_ne_empty {s : String} (h : isBlankText s = false) : (trim s).toList ≠ [] :=
  fun hnil => trim_ne_empty_iff.2 h (String.toList_inj.1 hnil)

/-- What is left of a text begins and ends with characters that are not blank, so there is nothing
more to trim. -/
theorem trimChars_trimChars (cs : List Char) : trimChars (trimChars cs) = trimChars cs := by
  have htrim : ∀ ds, trimChars ds = (ds.dropWhile isBlank).rdropWhile isBlank := fun _ => rfl
  have hfront : (trimChars cs).dropWhile isBlank = trimChars cs := by
    rw [List.dropWhile_eq_self_iff]
    intro hlt
    have hstart : trimChars cs <+: cs.dropWhile isBlank := List.rdropWhile_prefix _ _
    rw [hstart.getElem hlt]
    exact List.dropWhile_get_zero_not isBlank cs (hlt.trans_le hstart.length_le)
  rw [htrim (trimChars cs), hfront, htrim cs, List.rdropWhile_idempotent]

theorem trim_trim (s : String) : trim (trim s) = trim s := by
  rw [trim, trim, String.toList_ofList, trimChars_trimChars]

/-- Trimming takes blanks away only. -/
theorem isBlankText_trim (s : String) : isBlankText (trim s) = isBlankText s := by
  rw [Bool.eq_iff_iff, ← trim_eq_empty_iff, ← trim_eq_empty_iff, trim_trim]

end Text

theorem mem_keptTerms {terms : List String} {t : String} :
    t ∈ keptTerms terms ↔ ∃ s ∈ terms, isBlankText s = false ∧ trim s = t := by
  rw [keptTerms, List.mem_filter, List.mem_map]
  constructor
  · rintro ⟨⟨s, hs, rfl⟩, hne⟩
    exact ⟨s, hs, trim_ne_empty_iff.1 (bne_iff_ne.1 hne), rfl⟩
  · rintro ⟨s, hs, hblank, rfl⟩
    exact ⟨⟨s, hs, rfl⟩, bne_iff_ne.2 (trim_ne_empty_iff.2 hblank)⟩

namespace Request

theorem mem_usableRules {r : Request} {rule : ProximityRule} :
    rule ∈ r.usableRules ↔ ∃ given ∈ r.proximity, given.isUsable = true ∧ given.normal = rule := by
  simp only [usableRules, List.mem_map, List.mem_filter, and_assoc]

theorem usableRules_eq_nil_iff {r : Request} :
    r.usableRules = [] ↔ ∀ rule ∈ r.proximity, rule.isUsable = false := by
  rw [usableRules, List.map_eq_nil_iff, List.filter_eq_nil_iff]
  simp only [Bool.not_eq_true]

/-- A request has something to search for when its text counts or a rule does. -/
theorem hasInput_iff {r : Request} :
    r.hasInput = true ↔ isBlankText r.text = false ∨ r.usableRules ≠ [] := by
  rw [hasInput, Bool.or_eq_true, Bool.not_eq_true', ne_eq, usableRules_eq_nil_iff,
    List.any_eq_true]
  simp only [not_forall, Bool.not_eq_false, exists_prop]

/-- Where no rule is of use, it is the text that counts. -/
theorem text_ne_blank {r : Request} (hinput : r.hasInput = true) (hrules : r.usableRules = []) :
    isBlankText r.text = false :=
  (hasInput_iff.1 hinput).resolve_right (not_not_intro hrules)

section Branches

variable {r : Request} {synonyms : List String}

theorem body_of_text (hrules : r.usableRules = []) :
    r.body synonyms = textBody (trim r.text) r.mode r.plurals synonyms := by
  rw [body, if_pos (List.isEmpty_iff.2 hrules)]

/-- Where there are rules of use, neither the text nor the synonyms are searched for. -/
theorem body_of_rules (hrules : r.usableRules ≠ []) :
    r.body synonyms = proximityBody r.usableRules := by
  rw [body, if_neg (by simpa using hrules)]

/-- Nor are they described. -/
theorem clauses_of_rules (hrules : r.usableRules ≠ []) (n : Nat) :
    r.clauses n = [Description.ruleClause r.usableRules] ++
      Description.termClause "must contain" r.required ++
        Description.termClause "must not contain" r.excluded := by
  rw [clauses, if_neg (by simpa using hrules)]

end Branches

end Request

/-! ## 2. Constraints -/

/-- The text has each required word and none of the excluded ones. -/
structure Request.KeptBy (r : Request) (text : List Char) : Prop where
  required : ∀ t ∈ r.required, isBlankText t = false →
    OccursAsWord r.flags.caseMode (trim t).toList text
  excluded : ∀ t ∈ r.excluded, isBlankText t = false →
    ¬OccursAsWord r.flags.caseMode (trim t).toList text

/-- The constraints that are run say which words occur. -/
theorem Request.hold_iff {r : Request} {text : List Char} :
    (Constraints.ofTerms r.required r.excluded).hold r.flags.caseMode text = true ↔
      r.KeptBy text := by
  have hmem : ∀ {terms : List String} {P : Pattern .sequence → Prop},
      (∀ p ∈ Constraints.wordPatterns terms, P p) ↔
        ∀ t ∈ terms, isBlankText t = false → P (.wholeWord (trim t).toList) := by
    intro terms P
    simp only [Constraints.wordPatterns, List.forall_mem_map, mem_keptTerms]
    exact ⟨fun h t ht hb => h _ ⟨t, ht, hb, rfl⟩, fun h _ ⟨t, ht, hb, he⟩ => he ▸ h t ht hb⟩
  rw [Constraints.hold, Bool.and_eq_true, List.all_eq_true, Bool.not_eq_true', List.any_eq_false,
    Constraints.ofTerms, hmem, hmem]
  simp only [Pattern.matchesText_wholeWord]
  exact ⟨fun h => ⟨h.1, h.2⟩, fun h => ⟨h.1, h.2⟩⟩

/-! ## 3. Compiling -/

/-- Factoring keeps the stretches that match. -/
theorem Pattern.matches_factored {mode : CaseMode} {kind : PatternKind} {p : Pattern kind}
    {x m y : List Char} : (p.factored mode).Matches mode x m y ↔ p.Matches mode x m y := by
  rw [matches_iff_mem_ends, matches_iff_mem_ends, mem_ends_factored]

/-- The bytes in front of a place are those of the characters in front of it. -/
theorem byteOffset_append (x y : List Char) : byteOffset (x ++ y) x.length = byteLength x := by
  rw [byteOffset, List.take_left, byteLength]

/-- What is highlighted is a span of the body with its choices factored, counted in bytes. -/
theorem QueryPattern.exists_of_mem_byteSpans {q : QueryPattern} {text : String} {span : Span}
    (h : span ∈ q.byteSpans text) : ∃ x m y, text.toList = x ++ m ++ y ∧
      ⟨x.length, (x ++ m).length⟩ ∈ (q.body.factored q.flags.caseMode).spans q.flags.caseMode
        (x ++ m ++ y) ∧ span = ⟨byteLength x, byteLength (x ++ m)⟩ := by
  rw [byteSpans, List.mem_map] at h
  obtain ⟨inChars, hmem, rfl⟩ := h
  rw [spans] at hmem
  split at hmem
  · obtain ⟨x, m, y, htext, -, -, rfl⟩ := Pattern.exists_prefers_of_mem_spans hmem
    refine ⟨x, m, y, htext, htext ▸ hmem, ?_⟩
    have hstart : byteOffset text.toList x.length = byteLength x := by
      rw [htext, List.append_assoc, byteOffset_append]
    have hstop : byteOffset text.toList (x ++ m).length = byteLength (x ++ m) := by
      rw [htext, byteOffset_append]
    rw [Span.inBytes, hstart, hstop]
  · exact absurd hmem List.not_mem_nil

namespace Settings

variable {s : Settings} {r : Request} {e : Option Expansion} {q : CompiledQuery}

/-- Compiling succeeds when there is something to search for and its machine fits, and gives the
query that was assembled. -/
theorem compile_eq_ok_iff : (s.compile r e).result = .ok q ↔
    r.hasInput = true ∧ (r.pattern (s.synonymsFor r e)).fits s.sizeLimit = true ∧
      s.assemble r (s.synonymsFor r e) = q := by
  have hpattern : (s.assemble r (s.synonymsFor r e)).pattern = r.pattern (s.synonymsFor r e) := rfl
  rw [compile]
  split
  · dsimp only
    split
    · simp_all
    · simp_all
  · simp_all

theorem compile_of_fits (hinput : r.hasInput = true)
    (hfits : (r.pattern (s.synonymsFor r e)).fits s.sizeLimit = true) :
    (s.compile r e).result = .ok (s.assemble r (s.synonymsFor r e)) :=
  compile_eq_ok_iff.2 ⟨hinput, hfits, rfl⟩

theorem pattern_of_compile (h : (s.compile r e).result = .ok q) :
    q.pattern = r.pattern (s.synonymsFor r e) := by
  obtain ⟨-, -, rfl⟩ := compile_eq_ok_iff.1 h
  rfl

/-- The constraints of a query say which words occur. -/
theorem constraintsHold_iff (h : (s.compile r e).result = .ok q) {text : String} :
    q.pattern.constraintsHold text = true ↔ r.KeptBy text.toList := by
  rw [pattern_of_compile h]
  exact Request.hold_iff

/-- **A text is a result** when it keeps the constraints and one of its stretches is a match of the
body. -/
theorem isMatch_iff (h : (s.compile r e).result = .ok q) {text : String} :
    q.pattern.isMatch text = true ↔ r.KeptBy text.toList ∧
      ∃ x m y, text.toList = x ++ m ++ y ∧
        (r.body (s.synonymsFor r e)).Matches r.flags.caseMode x m y := by
  rw [QueryPattern.isMatch, Bool.and_eq_true, constraintsHold_iff h, pattern_of_compile h,
    Pattern.matchesText_iff]
  rfl

/-- **Every span that is highlighted is a match of the body**, with both ends counted in bytes. -/
theorem exists_of_mem_byteSpans (h : (s.compile r e).result = .ok q) {text : String} {span : Span}
    (hspan : span ∈ q.pattern.byteSpans text) :
    ∃ x m y, text.toList = x ++ m ++ y ∧ m ≠ [] ∧
      (r.body (s.synonymsFor r e)).Matches r.flags.caseMode x m y ∧
      span = ⟨byteLength x, byteLength (x ++ m)⟩ := by
  obtain ⟨x, m, y, htext, hmem, hbytes⟩ := QueryPattern.exists_of_mem_byteSpans hspan
  obtain ⟨hne, hprefers⟩ := Pattern.prefers_of_mem_spans hmem
  rw [pattern_of_compile h] at hprefers
  exact ⟨x, m, y, htext, hne, Pattern.matches_factored.1 hprefers.matches, hbytes⟩

end Settings

end VerseQuery
