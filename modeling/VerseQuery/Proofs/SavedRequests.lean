/-
# Saved requests

A saved request is an object with the request's members.  It is still read back as that request
when its members change places, when members that hold what a request has by default are left out
(`Resaved.drop`), and when members of other names are put in (`Resaved.add`), however many such
changes were made to it (`saved_is_read_back`).

**What is not so:** that any member of another name may be put in.  The members that are not the
request's own are kept until the scope has been taken from among them, and one that cannot be kept
spoils the object (`unkeepable_member_is_refused`).

Why it is so: each change keeps `Has`, which says of each member of the request that it is the
only one of its name, or that it is left out and holds the default.
-/
import VerseQuery.Proofs.Decoding

namespace VerseQuery

open Json

/-! ## 1. Members of an object -/

namespace Json

/-- The members of that name. -/
def named (name : JsonText) (members : List (JsonText × Json)) : List (JsonText × Json) :=
  members.filter (·.1 == name)

theorem named_cons (name : JsonText) (m : JsonText × Json) (members : List (JsonText × Json)) :
    named name (m :: members) = if m.1 = name then m :: named name members
      else named name members := by
  simp only [named, List.filter_cons, beq_iff_eq]

theorem named_eq_nil {name : JsonText} {members : List (JsonText × Json)}
    (h : name ∉ members.map (·.1)) : named name members = [] := by
  refine List.filter_eq_nil_iff.2 fun m hm hname => h ?_
  exact beq_iff_eq.1 hname ▸ List.mem_map_of_mem hm

/-- Where no two members have one name, each is the only one of its name. -/
theorem named_of_mem {members : List (JsonText × Json)} (hnodup : (members.map (·.1)).Nodup)
    {m : JsonText × Json} (hm : m ∈ members) : named m.1 members = [m] := by
  induction members with
  | nil => simp at hm
  | cons d rest ih =>
    obtain ⟨hfirst, hrest⟩ := List.nodup_cons.1 hnodup
    rw [named_cons]
    rcases List.mem_cons.1 hm with rfl | hm
    · rw [if_pos rfl, named_eq_nil hfirst]
    · have hne : d.1 ≠ m.1 := fun heq => hfirst (List.mem_map.2 ⟨m, hm, heq.symm⟩)
      rw [if_neg hne, ih hrest hm]

theorem find?_eq_head? (name : String) (members : List (JsonText × Json)) :
    find? name members = (named (some name) members).head?.map (·.2) := by
  rw [find?, named, List.head?_filter]

theorem areDistinct_iff {known : List String} {members : List (JsonText × Json)} :
    areDistinct known members = true ↔
      (∀ m ∈ members, m.1.isSome) ∧ ∀ name ∈ known, (named (some name) members).length ≤ 1 := by
  simp only [areDistinct, named, Bool.and_eq_true, List.all_eq_true, decide_eq_true_eq,
    List.countP_eq_length_filter]

/-- Whether the member has a name, and a value that can be kept. -/
def memberIsKeepable (room : Nat) (m : JsonText × Json) : Bool :=
  m.1.isSome && m.2.isKeepable room

theorem membersKeepable_eq_all (room : Nat) : ∀ members : List (JsonText × Json),
    membersKeepable room members = members.all (memberIsKeepable room)
  | [] => rfl
  | m :: rest => by
    rw [membersKeepable, membersKeepable_eq_all room rest, List.all_cons, memberIsKeepable]

/-- The members of other names than the known ones can be kept. -/
theorem membersKeepable_filter {room : Nat} {known : List String}
    {members : List (JsonText × Json)} :
    membersKeepable room (members.filter fun m => !known.any fun name => m.1 == some name) = true
      ↔ ∀ m ∈ members, m.1 ∉ known.map some → memberIsKeepable room m = true := by
  have hother : ∀ m : JsonText × Json,
      (!known.any fun name => m.1 == some name) = true ↔ m.1 ∉ known.map some := by
    intro m
    simp only [Bool.not_eq_true', List.any_eq_false, beq_iff_eq, List.mem_map, not_exists, not_and]
    exact ⟨fun h name hname heq => h name hname heq.symm, fun h name hname heq =>
      h name hname heq.symm⟩
  simp only [membersKeepable_eq_all, List.all_eq_true, List.mem_filter, hother, and_imp]

theorem areKeepable_strings (room : Nat) : ∀ ss : List String,
    areKeepable room (ss.map string) = true
  | [] => rfl
  | _ :: rest => areKeepable_strings room rest

theorem membersKeepable_strings (room : Nat) (entries : List (String × String)) :
    membersKeepable room (entries.map fun e => (some e.1, string e.2)) = true := by
  rw [membersKeepable_eq_all, List.all_map, List.all_eq_true]
  exact fun _ _ => rfl

end Json

/-! ## 2. Saved requests -/

namespace Request

/-- The members of the object that holds the request. -/
def savedMembers (r : Request) : List (JsonText × Json) :=
  (r.ownMembers ++ r.scope.members).map fun m => (some m.1, m.2)

/-- The names that mean something in a request. -/
def fields : List String :=
  ownFields ++ Scope.fields

theorem names_savedMembers (r : Request) : r.savedMembers.map (·.1) = fields.map some := rfl

/-- The members whose names mean nothing in a request. -/
def others (members : List (JsonText × Json)) : List (JsonText × Json) :=
  members.filter fun m => !fields.any fun name => m.1 == some name

/-- **The object comes from that of the request** by putting its members in another order, by
leaving out members that hold what a request has by default, and by adding members whose names
mean nothing in a request. -/
inductive Resaved (r : Request) : List (JsonText × Json) → Prop
  | saved : Resaved r r.savedMembers
  | reorder {members members' : List (JsonText × Json)} (h : Resaved r members)
      (hperm : members.Perm members') : Resaved r members'
  | drop {m : JsonText × Json} {members : List (JsonText × Json)} (h : Resaved r (m :: members))
      (hm : m ∈ ({} : Request).savedMembers) : Resaved r members
  | add {m : JsonText × Json} {members : List (JsonText × Json)} (h : Resaved r members)
      (hm : ∀ name ∈ fields, m.1 ≠ some name) : Resaved r (m :: members)

/-- Any number of members that hold what a request has by default may be left out. -/
theorem Resaved.dropAll {r : Request} {members : List (JsonText × Json)} :
    ∀ {dropped : List (JsonText × Json)}, Resaved r (dropped ++ members) →
      (∀ m ∈ dropped, m ∈ ({} : Request).savedMembers) → Resaved r members
  | [], h, _ => h
  | m :: _, h, hdropped =>
    (h.drop (hdropped m List.mem_cons_self)).dropAll
      fun d hd => hdropped d (List.mem_cons_of_mem m hd)

/-- The request that has nothing of its own may be saved without members. -/
theorem resaved_nil : ({} : Request).Resaved [] :=
  Resaved.dropAll ((List.append_nil _).symm ▸ Resaved.saved) fun _ h => h

/-! ## 3. What every change keeps -/

/-- The member is the only one of its name, or it is left out and holds what a request has by
default. -/
def Has (members : List (JsonText × Json)) (m : JsonText × Json) : Prop :=
  named m.1 members = [m] ∨ named m.1 members = [] ∧ m ∈ ({} : Request).savedMembers

theorem nodup_names (r : Request) : (r.savedMembers.map (·.1)).Nodup := by
  rw [names_savedMembers]
  decide

theorem name_mem_fields {r : Request} {m : JsonText × Json} (hm : m ∈ r.savedMembers) :
    m.1 ∈ fields.map some :=
  r.names_savedMembers ▸ List.mem_map_of_mem hm

theorem Has.reorder {members members' : List (JsonText × Json)} {m : JsonText × Json}
    (h : Has members m) (hperm : members.Perm members') : Has members' m := by
  have hnamed : (named m.1 members).Perm (named m.1 members') := hperm.filter _
  rcases h with hone | ⟨hnone, hdefault⟩
  · exact Or.inl (List.perm_singleton.1 (hone ▸ hnamed).symm)
  · exact Or.inr ⟨List.perm_nil.1 (hnone ▸ hnamed).symm, hdefault⟩

theorem Has.drop {members : List (JsonText × Json)} {d m : JsonText × Json}
    (h : Has (d :: members) m) (hd : d ∈ ({} : Request).savedMembers) : Has members m := by
  unfold Has at h
  rw [named_cons] at h
  split at h
  · rcases h with hone | ⟨hnone, -⟩
    · obtain ⟨rfl, hrest⟩ := List.cons.inj hone
      exact Or.inr ⟨hrest, hd⟩
    · cases hnone
  · exact h

theorem Has.add {members : List (JsonText × Json)} {d m : JsonText × Json}
    (h : Has members m) (hne : d.1 ≠ m.1) : Has (d :: members) m := by
  rwa [Has, named_cons, if_neg hne]

/-- **Every change keeps each member of the request,** or leaves it out where it says nothing. -/
theorem Resaved.has {r : Request} {members : List (JsonText × Json)} (h : Resaved r members) :
    ∀ m ∈ r.savedMembers, Has members m := by
  induction h with
  | saved => exact fun m hm => Or.inl (named_of_mem r.nodup_names hm)
  | reorder _ hperm ih => exact fun m hm => (ih m hm).reorder hperm
  | drop _ hd ih => exact fun m hm => (ih m hm).drop hd
  | add _ hd ih =>
    intro m hm
    obtain ⟨name, hname, heq⟩ := List.mem_map.1 (name_mem_fields hm)
    exact (ih m hm).add (heq ▸ hd name hname)

/-! ## 4. What is read from the members -/

/-- A field that every request writes in one form is read as the request has it. -/
theorem Resaved.field_eq {α : Type} {encode : α → Json} {decode : Json → Option α}
    {name : String} {r : Request} {members : List (JsonText × Json)} (h : Resaved r members)
    (get : Request → α) (i : Nat) (hdecodes : Decodes encode decode)
    (hget : ∀ r : Request, r.savedMembers[i]? = some (some name, encode (get r))) :
    field members name (get {}) decode = some (get r) := by
  have hmem : ∀ r : Request, (some name, encode (get r)) ∈ r.savedMembers := fun r =>
    List.mem_of_getElem? (hget r)
  rw [field, find?_eq_head?]
  rcases h.has _ (hmem r) with hone | ⟨hnone, hdefault⟩
  · simp only [hone, List.head?_cons, Option.map_some]
    exact hdecodes (get r)
  · have hboth : named (some name) ({} : Request).savedMembers = [(some name, encode (get r))] :=
      named_of_mem (nodup_names {}) hdefault
    have hvalue : [(some name, encode (get {}))] = [(some name, encode (get r))] :=
      (named_of_mem (nodup_names {}) (hmem {})).symm.trans hboth
    have hsame : encode (get {}) = encode (get r) :=
      congrArg Prod.snd (List.cons.inj hvalue).1
    simp only [hnone, List.head?_nil, Option.map_none, hdecodes.injective hsame]

theorem Resaved.ofMembers?_eq {r : Request} {members : List (JsonText × Json)}
    (h : Resaved r members) : Scope.ofMembers? Scope.isEmptyUnit members = some r.scope := by
  have hunit := decodes_ofOption (Testament.decodes Scope.isEmptyUnit) (by simp [string])
  have htranslations : field members "translations" [] asStrings? = some r.scope.translations :=
    h.field_eq (·.scope.translations) 10 decodes_strings fun _ => rfl
  have htestament : field members "testament" none
      (asOption? (Testament.ofJson? Scope.isEmptyUnit)) = some r.scope.testament :=
    h.field_eq (·.scope.testament) 11 hunit fun _ => rfl
  have hbooks : field members "books" [] asStrings? = some r.scope.books :=
    h.field_eq (·.scope.books) 12 decodes_strings fun _ => rfl
  have hmorphology : field members "morphology" ∅ (asTable? asString?) = some r.scope.morphology :=
    h.field_eq (·.scope.morphology) 13 (decodes_table decodes_string) fun _ => rfl
  rw [Scope.ofMembers?, htranslations, htestament, hbooks, hmorphology]
  rfl

/-- The members of a scope can be kept. -/
theorem memberIsKeepable_of_mem_scope {scope : Scope} {d : String × Json}
    (hd : d ∈ scope.members) : memberIsKeepable nestingRoom (some d.1, d.2) = true := by
  simp only [Scope.members, List.mem_cons, List.not_mem_nil, or_false] at hd
  rcases hd with rfl | rfl | rfl | rfl
  · exact areKeepable_strings _ scope.translations
  · cases scope.testament <;> rfl
  · exact areKeepable_strings _ scope.books
  · rw [record_map]
    exact membersKeepable_strings _ scope.morphology.entries

theorem memberIsKeepable_of_mem {r : Request} {m : JsonText × Json} (hm : m ∈ r.savedMembers)
    (hown : m.1 ∉ ownFields.map some) : memberIsKeepable nestingRoom m = true := by
  obtain ⟨d, hd, rfl⟩ := List.mem_map.1 hm
  rcases List.mem_append.1 hd with hd | hd
  · have hname : d.1 ∈ r.ownMembers.map (·.1) := List.mem_map_of_mem hd
    exact absurd (List.mem_map_of_mem hname) hown
  · exact memberIsKeepable_of_mem_scope hd

/-- A member with a name that means something is one of the request's. -/
theorem Resaved.mem_savedMembers {r : Request} {members : List (JsonText × Json)}
    (h : Resaved r members) {m : JsonText × Json} (hm : m ∈ members)
    (hname : m.1 ∈ fields.map some) : m ∈ r.savedMembers := by
  rw [← r.names_savedMembers] at hname
  obtain ⟨d, hd, heq⟩ := List.mem_map.1 hname
  have hnamed : m ∈ named d.1 members := List.mem_filter.2 ⟨hm, beq_iff_eq.2 heq.symm⟩
  rcases h.has d hd with hone | ⟨hnone, -⟩
  · rw [hone, List.mem_singleton] at hnamed
    exact hnamed ▸ hd
  · rw [hnone] at hnamed
    exact absurd hnamed List.not_mem_nil

/-- **Whether the object is taken at all** depends on the members of other names alone. -/
theorem Resaved.isTaken_eq {r : Request} {members : List (JsonText × Json)}
    (h : Resaved r members) : (areDistinct fields members && keepsOthers members)
      = membersKeepable nestingRoom (others members) := by
  have hdistinct : ∀ name ∈ fields, (named (some name) members).length ≤ 1 := by
    intro name hname
    have hmem : some name ∈ r.savedMembers.map (·.1) :=
      r.names_savedMembers ▸ List.mem_map_of_mem hname
    obtain ⟨d, hd, heq⟩ := List.mem_map.1 hmem
    rw [← heq]
    rcases h.has d hd with hone | ⟨hnone, -⟩
    · exact Nat.le_of_eq (congrArg List.length hone)
    · rw [hnone]
      exact Nat.zero_le 1
  rw [Bool.eq_iff_iff, Bool.and_eq_true, areDistinct_iff, keepsOthers, others,
    membersKeepable_filter, membersKeepable_filter]
  constructor
  · rintro ⟨-, hkeep⟩ m hm hother
    refine hkeep m hm fun hown => hother ?_
    exact List.map_subset some (List.subset_append_left ownFields Scope.fields) hown
  · intro hkeep
    have hall : ∀ m ∈ members, m.1 ∉ ownFields.map some → memberIsKeepable nestingRoom m = true := by
      intro m hm hown
      by_cases hname : m.1 ∈ fields.map some
      · exact memberIsKeepable_of_mem (h.mem_savedMembers hm hname) hown
      · exact hkeep m hm hname
    refine ⟨⟨fun m hm => ?_, hdistinct⟩, hall⟩
    by_cases hname : m.1 ∈ ownFields.map some
    · obtain ⟨name, -, heq⟩ := List.mem_map.1 hname
      rw [← heq, Option.isSome_some]
    · exact (Bool.and_eq_true_iff.1 (hall m hm hname)).1

/-- **What is read from the object:** the request, unless a member of another name cannot be
kept. -/
theorem Resaved.ofJson?_eq {r : Request} {members : List (JsonText × Json)}
    (h : Resaved r members) : ofJson? (object members)
      = if membersKeepable nestingRoom (others members) then some r else none := by
  have hcap := decodes_ofOption decodes_uint64 (by simp [nat, int])
  have htext : field members "text" "" asString? = some r.text :=
    h.field_eq (·.text) 0 decodes_string fun _ => rfl
  have hmode : field members "matchMode" .contains MatchMode.ofJson? = some r.mode :=
    h.field_eq (·.mode) 1 MatchMode.decodes fun _ => rfl
  have hcase : field members "caseInsensitive" true asBool? = some r.ignoreCase :=
    h.field_eq (·.ignoreCase) 2 decodes_bool fun _ => rfl
  have hphrase : field members "exactPhrase" false asBool? = some r.exactPhrase :=
    h.field_eq (·.exactPhrase) 3 decodes_bool fun _ => rfl
  have hplurals : field members "includePlurals" false asBool? = some r.plurals :=
    h.field_eq (·.plurals) 4 decodes_bool fun _ => rfl
  have hsynonyms : field members "includeSynonyms" false asBool? = some r.synonyms :=
    h.field_eq (·.synonyms) 5 decodes_bool fun _ => rfl
  have hsynonymCap : field members "maxSynonymsPerWord" none (asOption? asUInt64?)
      = some r.synonymCap :=
    h.field_eq (·.synonymCap) 6 hcap fun _ => rfl
  have hrequired : field members "mustContain" [] asStrings? = some r.required :=
    h.field_eq (·.required) 7 decodes_strings fun _ => rfl
  have hexcluded : field members "mustNotContain" [] asStrings? = some r.excluded :=
    h.field_eq (·.excluded) 8 decodes_strings fun _ => rfl
  have hproximity : field members "proximityRules" [] (asList? ProximityRule.ofJson?)
      = some r.proximity :=
    h.field_eq (·.proximity) 9 (decodes_array ProximityRule.decodes) fun _ => rfl
  have htaken : (areDistinct (ownFields ++ Scope.fields) members && keepsOthers members)
      = membersKeepable nestingRoom (others members) := h.isTaken_eq
  rw [ofJson?, htaken, htext, hmode, hcase, hphrase, hplurals, hsynonyms, hsynonymCap, hrequired,
    hexcluded, hproximity, h.ofMembers?_eq]
  rfl

end Request

/-! ## 5. What is saved is read back -/

/-- **What is saved is read back,** a request, an expansion or a dictionary, and nothing of it is
lost in its text.  A request is read back from every object that comes from its own by the changes
of `Resaved` and in which the members of other names can be kept; an object with another such member
is refused. -/
theorem saved_is_read_back :
    (∀ r : Request, read? (write r.toJson) = some r.toJson ∧ Request.ofJson? r.toJson = some r) ∧
    (∀ (r : Request) (members : List (JsonText × Json)), r.Resaved members →
      Request.ofJson? (object members)
        = if membersKeepable Request.nestingRoom (Request.others members) then some r else none) ∧
    (∀ e : Expansion,
      read? (write e.toJson) = some e.toJson ∧ Expansion.ofJson? e.toJson = some e) ∧
    (∀ d : Dictionary,
      read? (write d.toJson) = some d.toJson ∧ Dictionary.ofJson? d.toJson = some d) :=
  ⟨fun r => ⟨r.faithful_toJson.read?_write, Request.Resaved.saved.ofJson?_eq⟩,
    fun _ _ h => h.ofJson?_eq,
    fun e => ⟨e.faithful_toJson.read?_write, Expansion.decodes e⟩,
    fun d => ⟨d.faithful_toJson.read?_write, Dictionary.decodes d⟩⟩

/-- A request with values at both ends of 64 bits, saved without its blank text, from the last
member to the first, and with a note. -/
theorem saved_is_read_back_noted :
    let r : Request := {
      synonymCap := some 18446744073709551615
      proximity := [⟨"fear", "not", Int64.minValue⟩, ⟨"ſ", "", Int64.maxValue⟩]
      scope := { testament := some .old } }
    let members := (some "note", array [null]) :: r.savedMembers.tail.reverse
    r.Resaved members ∧ Request.ofJson? (object members) = some r := by
  intro r members
  have hdrop : r.Resaved r.savedMembers.tail := Request.Resaved.saved.drop List.mem_cons_self
  have hadd : r.Resaved members := by
    refine (hdrop.reorder (List.reverse_perm _).symm).add ?_
    decide
  exact ⟨hadd, (saved_is_read_back.2.1 r members hadd).trans rfl⟩

/-- **Not every member of another name may be put in:** a number out of the range of a double cannot
be kept, and the object is refused. -/
theorem unkeepable_member_is_refused :
    let members := [(some "note", number (.real false))]
    read? "\x7b\"note\":1e999\x7d" = some (object members) ∧
      ({} : Request).Resaved members ∧ Request.ofJson? (object members) = none := by
  intro members
  have hnumber : JsonToken.number? ['1', 'e', '9', '9', '9', '}'] = some (.real false, ['}']) := rfl
  have hscan : JsonToken.scan? "\x7b\"note\":1e999\x7d".toList = some
      [.openObject, .scalar (string "note"), .colon, .scalar (.number (.real false)),
        .closeObject] := by
    simp [JsonToken.scan?, JsonToken.scanUpTo, JsonToken.isSpace, JsonToken.next?,
      JsonToken.pieces?, JsonToken.join?, hnumber, string]
    rfl
  have hread : read? "\x7b\"note\":1e999\x7d" = some (object members) := by
    rw [read?, hscan]
    rfl
  have hadd : ({} : Request).Resaved members := by
    refine Request.resaved_nil.add ?_
    decide
  exact ⟨hread, hadd, hadd.ofJson?_eq.trans rfl⟩

end VerseQuery
