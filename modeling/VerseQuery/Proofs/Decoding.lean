/-
# Values read back from their JSON form

Every value that a request, an expansion or a dictionary is made of is decoded from its JSON form
to itself.  For a type of values this is `Decodes encode decode`; lists, options and tables of
values that decode, decode too.  Their forms are `Faithful`, so nothing is lost in writing them.
-/
import Mathlib.Data.List.Nodup
import VerseQuery.Json.Request
import VerseQuery.Json.Synonyms
import VerseQuery.Proofs.JsonText

namespace VerseQuery

/-! ## 1. Tables -/

namespace KeyTable

variable {α : Type}

/-- An entry that comes after all others goes to the end. -/
theorem insertEntry_of_forall_lt {key : String} (value : α) :
    ∀ {entries : List (String × α)}, (∀ e ∈ entries, e.1 < key) →
      insertEntry key value entries = entries ++ [(key, value)]
  | [], _ => rfl
  | e :: rest, h => by
    have he : e.1 < key := h e List.mem_cons_self
    have hrest := insertEntry_of_forall_lt value (fun d hd => h d (List.mem_cons_of_mem _ hd))
    rw [insertEntry, if_neg (String.lt_asymm he), if_pos he, hrest,
      List.cons_append]

/-- Entries in rising order behind those of a table are put behind them. -/
theorem entries_foldl_insert :
    ∀ (entries : List (String × α)) (table : KeyTable α),
      (table.entries ++ entries).Pairwise (fun a b => a.1 < b.1) →
        (entries.foldl (fun table e => table.insert e.1 e.2) table).entries
          = table.entries ++ entries
  | [], table, _ => (List.append_nil _).symm
  | e :: rest, table, h => by
    have hlt : ∀ d ∈ table.entries, d.1 < e.1 := fun d hd =>
      (List.pairwise_append.1 h).2.2 d hd e List.mem_cons_self
    have hentries : (table.insert e.1 e.2).entries = table.entries ++ [e] :=
      insertEntry_of_forall_lt e.2 hlt
    have hall : ((table.insert e.1 e.2).entries ++ rest).Pairwise (fun a b => a.1 < b.1) := by
      rwa [hentries, List.append_assoc]
    rw [List.foldl_cons, entries_foldl_insert rest _ hall, hentries, List.append_assoc]
    rfl

/-- **A table is made again from its entries.** -/
theorem ofList_entries (table : KeyTable α) : ofList table.entries = table := by
  have h : (ofList table.entries).entries = table.entries :=
    entries_foldl_insert table.entries ∅ table.rising
  cases table
  cases hof : ofList _ with
  | mk entries rising =>
    rw [hof] at h
    cases h
    rfl

end KeyTable

/-! ## 2. Types of values -/

/-- **Decoding undoes encoding,** for every value of the type. -/
def Decodes {α β : Type} (encode : α → β) (decode : β → Option α) : Prop :=
  ∀ a, decode (encode a) = some a

namespace Decodes

variable {α β : Type} {encode : α → β} {decode : β → Option α}

/-- Values with the same form are the same. -/
theorem injective (h : Decodes encode decode) : Function.Injective encode := by
  intro a b hab
  have hb : decode (encode a) = some b := hab ▸ h b
  exact Option.some.inj ((h a).symm.trans hb)

theorem mapM_map (h : Decodes encode decode) :
    ∀ l : List α, (l.map encode).mapM decode = some l
  | [] => rfl
  | a :: rest => by
    rw [List.map_cons, List.mapM_cons, h a, h.mapM_map rest]
    rfl

end Decodes

namespace Json

theorem decodes_bool : Decodes bool asBool? := fun _ => rfl

theorem decodes_string : Decodes string asString? := fun _ => rfl

theorem asInt?_int {low high n : Int} (hlow : low ≤ n) (hhigh : n ≤ high) :
    (int n).asInt? low high = some n :=
  if_pos ⟨hlow, hhigh⟩

theorem decodes_uint64 : Decodes (fun n : UInt64 => nat n.toNat) asUInt64? := by
  intro n
  have hlt : n.toNat < UInt64.size := n.toNat_lt_size
  have hint : (nat n.toNat).asInt? 0 (UInt64.size - 1) = some (n.toNat : Int) :=
    asInt?_int (Int.natCast_nonneg _) (by omega)
  rw [asUInt64?, hint, Option.map_some, Int.toNat_natCast, UInt64.ofNat_toNat]

theorem decodes_int64 : Decodes (fun n : Int64 => int n.toInt) asInt64? := by
  intro n
  have hint := asInt?_int n.minValue_le_toInt n.toInt_le
  rw [asInt64?, hint, Option.map_some, Int64.ofInt_toInt]

variable {α : Type} {encode : α → Json} {decode : Json → Option α}

/-- Null stands for none, so no value of the type may be written as null. -/
theorem decodes_ofOption (h : Decodes encode decode) (hnull : ∀ a, encode a ≠ null) :
    Decodes (ofOption encode) (asOption? decode) := by
  rintro (_ | a)
  · rfl
  · have hdecode : asOption? decode (encode a) = (decode (encode a)).map some :=
      asOption?.eq_2 decode _ (hnull a)
    rw [ofOption, hdecode, h a, Option.map_some]

theorem decodes_array (h : Decodes encode decode) :
    Decodes (fun l : List α => array (l.map encode)) (asList? decode) :=
  h.mapM_map

theorem decodes_strings : Decodes strings asStrings? :=
  decodes_array decodes_string

theorem record_map (encode : α → Json) (entries : List (String × α)) :
    record (entries.map fun e => (e.1, encode e.2))
      = object (entries.map fun e => (some e.1, encode e.2)) :=
  congrArg object List.map_map

theorem decodes_table (h : Decodes encode decode) :
    Decodes (fun t : KeyTable α => record (t.entries.map fun e => (e.1, encode e.2)))
      (asTable? decode) := by
  intro t
  have hentry : Decodes (fun e : String × α => (some e.1, encode e.2)) (namedValue? decode) := by
    intro e
    simp only [namedValue?, h e.2, Option.pure_def, Option.bind_eq_bind, Option.bind_some]
  simp only [record_map, asTable?, hentry.mapM_map, Option.map_some, t.ofList_entries]

end Json

/-! ## 3. The parts of a request -/

theorem MatchMode.decodes : Decodes (fun m : MatchMode => Json.string m.name) ofJson? := by
  rintro (_ | _) <;> rfl

theorem Testament.decodes (isUnit : Json → Bool) :
    Decodes (fun t : Testament => Json.string t.name) (ofJson? isUnit) := by
  rintro (_ | _) <;> rfl

theorem ProximityRule.decodes : Decodes toJson ofJson? := by
  intro rule
  have hmembers : Json.asRecord? fields rule.toJson = some
      [(some "word1", .string rule.first), (some "word2", .string rule.second),
        (some "maxDistance", .int rule.maxDistance.toInt)] := rfl
  have hfirst := Json.decodes_string rule.first
  have hsecond := Json.decodes_string rule.second
  have hdistance := Json.decodes_int64 rule.maxDistance
  simp [ofJson?, hmembers, Json.required, Json.find?, hfirst, hsecond, hdistance]

theorem ProximityRule.faithful_toJson (rule : ProximityRule) : rule.toJson.Faithful := by
  refine .object fun m hm => ?_
  simp only [List.mem_cons, List.not_mem_nil, or_false] at hm
  rcases hm with rfl | rfl | rfl
  · exact .string rule.first
  · exact .string rule.second
  · exact .int64 rule.maxDistance

theorem Scope.faithful_of_mem {scope : Scope} {m : String × Json} (hm : m ∈ scope.members) :
    m.2.Faithful := by
  simp only [members, List.mem_cons, List.not_mem_nil, or_false] at hm
  rcases hm with rfl | rfl | rfl | rfl
  · exact .strings scope.translations
  · exact .ofOption (fun t => .string t.name) scope.testament
  · exact .strings scope.books
  · exact .table .string scope.morphology.entries

theorem Request.faithful_toJson (r : Request) : r.toJson.Faithful := by
  refine .object fun m hm => ?_
  rcases List.mem_append.1 hm with hm | hm
  · simp only [ownMembers, List.mem_cons, List.not_mem_nil, or_false] at hm
    rcases hm with rfl | rfl | rfl | rfl | rfl | rfl | rfl | rfl | rfl | rfl
    · exact .string r.text
    · exact .string r.mode.name
    · exact .bool r.ignoreCase
    · exact .bool r.exactPhrase
    · exact .bool r.plurals
    · exact .bool r.synonyms
    · exact .ofOption .uint64 r.synonymCap
    · exact .strings r.required
    · exact .strings r.excluded
    · exact .map ProximityRule.faithful_toJson r.proximity
  · exact Scope.faithful_of_mem hm

/-! ## 4. Expansions and dictionaries -/

theorem SynonymSet.decodes : Decodes toJson ofJson? := by
  intro set
  have hmembers : Json.asRecord? ["word", "synonyms"] set.toJson = some
      [(some "word", .string set.word), (some "synonyms", .strings set.synonyms)] := rfl
  have hword := Json.decodes_string set.word
  have hsynonyms := Json.decodes_strings set.synonyms
  simp [ofJson?, hmembers, Json.required, Json.find?, hword, hsynonyms]

theorem SynonymSet.faithful_toJson (set : SynonymSet) : set.toJson.Faithful := by
  refine .object fun m hm => ?_
  simp only [List.mem_cons, List.not_mem_nil, or_false] at hm
  rcases hm with rfl | rfl
  · exact .string set.word
  · exact .strings set.synonyms

theorem Expansion.decodes : Decodes toJson ofJson? := by
  intro e
  have hmembers : Json.asRecord? ["sets"] e.toJson
      = some [(some "sets", .array (e.sets.map (·.toJson)))] := rfl
  have hsets := Json.decodes_array SynonymSet.decodes e.sets
  simp [ofJson?, hmembers, Json.required, Json.find?, hsets]

theorem Expansion.faithful_toJson (e : Expansion) : e.toJson.Faithful := by
  refine .object fun m hm => ?_
  obtain rfl := List.mem_singleton.1 hm
  exact .map SynonymSet.faithful_toJson e.sets

theorem Dictionary.decodes : Decodes toJson ofJson? := by
  intro d
  have hmembers : Json.asRecord? ["multi_way", "one_way"] d.toJson = some
      [(some "multi_way", .array (d.groups.map Json.strings)),
        (some "one_way", .record (d.entries.entries.map fun e => (e.1, .strings e.2)))] := rfl
  have hgroups := Json.decodes_array Json.decodes_strings d.groups
  have hentries := Json.decodes_table Json.decodes_strings d.entries
  simp [ofJson?, hmembers, Json.required, Json.find?, hgroups, hentries]

theorem Dictionary.faithful_toJson (d : Dictionary) : d.toJson.Faithful := by
  refine .object fun m hm => ?_
  simp only [List.mem_cons, List.not_mem_nil, or_false] at hm
  rcases hm with rfl | rfl
  · exact .map .strings d.groups
  · exact .table .strings d.entries.entries

end VerseQuery
