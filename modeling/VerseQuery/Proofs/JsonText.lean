/-
# JSON text

A value is read back from the text that writes it, if writing loses nothing of it: a real number is
written as zero, and a text that names no characters as an empty one (`Faithful`).  As with
patterns, the proof has a part for each direction of writing.

* **Tokens.**  Only a number can take part of what follows it, and only a sign follows a number, or
  nothing does.  So the tokens of a value are scanned back from its text (`Scans`).
* **Values.**  A value is read from the front of its tokens, whatever follows (`Reads`).
-/
import Mathlib.Data.List.Basic
import VerseQuery.Json.Reader
import VerseQuery.Json.Writer

namespace VerseQuery

open Json

/-! ## 1. Numbers -/

namespace JsonToken

/-- A text that no number in front of it can take a part of. -/
def IsFree (rest : List Char) : Prop :=
  ∀ c ∈ rest.head?, c.isDigit = false ∧ c ≠ '.' ∧ c ≠ 'e' ∧ c ≠ 'E'

/-- No number but zero begins with a zero. -/
theorem exists_toDigits_eq_cons {n : Nat} (hpos : 0 < n) :
    ∃ d ds, Nat.toDigits 10 n = d :: ds ∧ d ≠ '0' := by
  induction n using Nat.strongRecOn with
  | ind n ih =>
    rw [Nat.toDigits_eq_if (by decide)]
    split
    · next hlt =>
      have hdigit : ∀ d < 10, 0 < d → d.digitChar ≠ '0' := by decide
      exact ⟨_, [], rfl, hdigit n hlt hpos⟩
    · obtain ⟨d, ds, hds, hne⟩ := ih (n / 10) (by omega) (by omega)
      exact ⟨d, ds ++ [(n % 10).digitChar], by rw [hds, List.cons_append], hne⟩

theorem isDigit_of_mem_toDigits {n : Nat} {c : Char} (h : c ∈ Nat.toDigits 10 n) :
    c.isDigit = true :=
  Nat.isDigit_of_mem_toDigits (by decide) (by decide) h

/-- A number begins with a digit. -/
theorem exists_digit_cons (n : Nat) : ∃ d ds, Nat.toDigits 10 n = d :: ds ∧ d.isDigit = true := by
  cases hds : Nat.toDigits 10 n with
  | nil => exact absurd hds Nat.toDigits_ne_nil
  | cons d ds => exact ⟨d, ds, rfl, isDigit_of_mem_toDigits (hds ▸ List.mem_cons_self)⟩

theorem digits?_append {ds rest : List Char} (hne : ds ≠ []) (hds : ∀ c ∈ ds, c.isDigit = true)
    (h : IsFree rest) : digits? (ds ++ rest) = some (ds, rest) := by
  have hstop : rest.takeWhile Char.isDigit = [] ∧ rest.dropWhile Char.isDigit = rest := by
    cases rest with
    | nil => exact ⟨rfl, rfl⟩
    | cons c cs =>
      have hc := (h c rfl).1
      simp [hc]
  rw [digits?, List.takeWhile_append_of_pos hds, List.dropWhile_append_of_pos hds, hstop.1,
    hstop.2, List.append_nil]
  cases ds with
  | nil => exact absurd rfl hne
  | cons d ds => rfl

theorem wholePart?_toDigits (n : Nat) {rest : List Char} (h : IsFree rest) :
    wholePart? (Nat.toDigits 10 n ++ rest) = some (Nat.toDigits 10 n, rest) := by
  rcases Nat.eq_zero_or_pos n with rfl | hpos
  · rfl
  · obtain ⟨d, ds, hds, hne⟩ := exists_toDigits_eq_cons hpos
    rw [wholePart?.eq_2]
    · exact digits?_append Nat.toDigits_ne_nil (fun c hc => isDigit_of_mem_toDigits hc) h
    · intro rest' heq
      rw [hds] at heq
      exact hne (List.cons.inj heq).1

theorem fraction?_free {rest : List Char} (h : IsFree rest) : fraction? rest = some ([], rest) := by
  rw [fraction?.eq_2]
  rintro rest' rfl
  exact (h '.' rfl).2.1 rfl

theorem exponent?_free {rest : List Char} (h : IsFree rest) :
    exponent? rest = some (none, rest) := by
  rw [exponent?.eq_3]
  · rintro rest' rfl
    exact (h 'e' rfl).2.2.1 rfl
  · rintro rest' rfl
    exact (h 'E' rfl).2.2.2 rfl

/-- What digits write, with a sign in front of them or without. -/
theorem numberOf_toDigits {negative : Bool} {n : Nat}
    (hlow : negative = true → 0 < n ∧ n ≤ 9223372036854775808)
    (hhigh : negative = false → n < 18446744073709551616) :
    numberOf negative (Nat.toDigits 10 n) [] none = .integer (if negative then -n else n) := by
  have hmantissa : Nat.ofDigitChars 10 (Nat.toDigits 10 n ++ []) 0 = n := by
    rw [List.append_nil, Nat.ofDigitChars_ten_toDigits]
  have hmin : Int64.minValue.toInt = -9223372036854775808 := rfl
  simp only [numberOf, hmantissa, hmin, UInt64.size]
  refine if_pos ?_
  cases negative with
  | true =>
    have hbounds := hlow rfl
    simp
    omega
  | false =>
    have hlt := hhigh rfl
    simp
    omega

/-- The number at the front of the text, whose sign has been read. -/
def unsigned? (negative : Bool) (text : List Char) : Option (JsonNumber × List Char) :=
  (wholePart? text).bind fun whole => (fraction? whole.2).bind fun fraction =>
    (exponent? fraction.2).bind fun exponent =>
      some (numberOf negative whole.1 fraction.1 exponent.1, exponent.2)

theorem number?_minus (text : List Char) : number? ('-' :: text) = unsigned? true text := by
  unfold number? unsigned?
  rfl

theorem number?_of_ne_minus {c : Char} (hne : c ≠ '-') (text : List Char) :
    number? (c :: text) = unsigned? false (c :: text) := by
  unfold number? unsigned?
  split
  · next heq =>
    split at heq
    · next hminus => exact absurd (List.cons.inj hminus).1 hne
    · obtain ⟨rfl, rfl⟩ := Prod.mk.inj heq
      rfl

theorem unsigned?_toDigits (negative : Bool) (n : Nat) {rest : List Char} (h : IsFree rest) :
    unsigned? negative (Nat.toDigits 10 n ++ rest)
      = some (numberOf negative (Nat.toDigits 10 n) [] none, rest) := by
  rw [unsigned?, wholePart?_toDigits n h, Option.bind_some, fraction?_free h, Option.bind_some,
    exponent?_free h, Option.bind_some]

/-- **An integer is read back from its digits.** -/
theorem number?_repr {n : Int} (hlow : Int64.minValue.toInt ≤ n) (hhigh : n < UInt64.size)
    {rest : List Char} (h : IsFree rest) :
    number? (n.repr.toList ++ rest) = some (.integer n, rest) := by
  have hmin : Int64.minValue.toInt = -9223372036854775808 := rfl
  have hsize : (UInt64.size : Int) = 18446744073709551616 := rfl
  rw [hmin] at hlow
  rw [hsize] at hhigh
  cases n with
  | ofNat m =>
    have htext : (Int.ofNat m).repr.toList = Nat.toDigits 10 m := Nat.toList_repr
    have hnumber : numberOf false (Nat.toDigits 10 m) [] none = .integer (Int.ofNat m) :=
      numberOf_toDigits (by simp) fun _ => by simp at hhigh; omega
    obtain ⟨d, ds, hds, hdigit⟩ := exists_digit_cons m
    have hne : d ≠ '-' := by
      rintro rfl
      exact absurd hdigit (by decide)
    rw [htext, hds, List.cons_append, number?_of_ne_minus hne, ← List.cons_append, ← hds,
      unsigned?_toDigits false m h, hnumber]
  | negSucc m =>
    have htext : (Int.negSucc m).repr.toList = '-' :: Nat.toDigits 10 (m + 1) := by
      simp [Int.repr]
    have hnumber : numberOf true (Nat.toDigits 10 (m + 1)) [] none = .integer (Int.negSucc m) :=
      numberOf_toDigits (fun _ => by omega) (by simp)
    rw [htext, List.cons_append, number?_minus, unsigned?_toDigits true (m + 1) h, hnumber]

/-! ## 2. Strings -/

/-- How the character is read: by its number if it is written so, and else as itself. -/
def pieceOf (c : Char) : Piece :=
  match shortEscape? c with
  | some _ => .char c
  | none => if c.toNat < 0x20 then .code c.toNat else .char c

/-- A sign is read as the character that it is written for, and none is the `u` of a number. -/
theorem escaped?_of_shortEscape? {c sign : Char} (h : shortEscape? c = some sign) :
    escaped? sign = some c ∧ sign ≠ 'u' := by
  unfold shortEscape? at h
  split at h <;> cases h <;> decide

theorem pieces?_escape {c sign : Char} (h : shortEscape? c = some sign) (rest : List Char) :
    pieces? ('\\' :: sign :: rest)
      = (pieces? rest).map fun (ps, rest) => (.char c :: ps, rest) := by
  obtain ⟨hread, hne⟩ := escaped?_of_shortEscape? h
  cases hrest : pieces? rest <;> simp [pieces?, hne, hread, hrest]

theorem hexValue?_hex4 : ∀ n < 0x20, (hex4 n).length = 4 ∧ hexValue? (hex4 n) = some n := by
  decide

theorem pieces?_hex4 {n : Nat} (hn : n < 0x20) (rest : List Char) :
    pieces? ('\\' :: 'u' :: (hex4 n ++ rest))
      = (pieces? rest).map fun (ps, rest) => (.code n :: ps, rest) := by
  obtain ⟨hlength, hvalue⟩ := hexValue?_hex4 n hn
  obtain ⟨a, b, d, e, hhex⟩ : ∃ a b d e, hex4 n = [a, b, d, e] := by
    match hex4 n, hlength with
    | [a, b, d, e], _ => exact ⟨a, b, d, e, rfl⟩
  rw [hhex] at hvalue
  cases hrest : pieces? rest <;> simp [hhex, pieces?, hvalue, hrest]

theorem pieces?_plain {c : Char} (hquote : c ≠ '"') (hslash : c ≠ '\\') (hc : ¬c.toNat < 0x20)
    (rest : List Char) :
    pieces? (c :: rest) = (pieces? rest).map fun (ps, rest) => (.char c :: ps, rest) := by
  -- The equation of `pieces?` for a character asks for `hquote`, which `simp` finds by itself.
  cases hrest : pieces? rest <;> simp [pieces?, hslash, hc, hrest]

theorem pieces?_writeChar (c : Char) (rest : List Char) : pieces? (writeChar c ++ rest)
    = (pieces? rest).map fun (ps, rest) => (pieceOf c :: ps, rest) := by
  cases hshort : shortEscape? c with
  | some sign =>
    have hpiece : pieceOf c = .char c := by rw [pieceOf, hshort]
    rw [writeChar, hshort, hpiece]
    exact pieces?_escape hshort rest
  | none =>
    by_cases hcontrol : c.toNat < 0x20
    · have hpiece : pieceOf c = .code c.toNat := by simp [pieceOf, hshort, hcontrol]
      have hwritten : writeChar c = '\\' :: 'u' :: hex4 c.toNat := by
        simp [writeChar, hshort, hcontrol]
      rw [hwritten, hpiece]
      exact pieces?_hex4 hcontrol rest
    · have hpiece : pieceOf c = .char c := by simp [pieceOf, hshort, hcontrol]
      have hwritten : writeChar c = [c] := by simp [writeChar, hshort, hcontrol]
      rw [hwritten, hpiece]
      refine pieces?_plain ?_ ?_ hcontrol rest
      · rintro rfl
        cases hshort
      · rintro rfl
        cases hshort

theorem pieces?_flatMap_writeChar (cs rest : List Char) :
    pieces? (cs.flatMap writeChar ++ '"' :: rest) = some (cs.map pieceOf, rest) := by
  induction cs with
  | nil => rfl
  | cons c cs ih =>
    rw [List.flatMap_cons, List.append_assoc, pieces?_writeChar, ih]
    rfl

theorem join?_code {n : Nat} (hhigh : isHighHalf n = false) (hlow : isLowHalf n = false)
    (ps : List Piece) : join? (.code n :: ps) = (join? ps).map (Char.ofNat n :: ·) := by
  match ps with
  | [] => simp [join?, hhigh, hlow]
  | .char c :: ps => simp [join?, hhigh, hlow]
  | .code m :: ps => simp [join?, hhigh, hlow]

theorem join?_map_pieceOf (cs : List Char) : join? (cs.map pieceOf) = some cs := by
  induction cs with
  | nil => rfl
  | cons c cs ih =>
    rw [List.map_cons, pieceOf]
    split
    · rw [join?, ih, Option.map_some]
    · split
      · next hcontrol =>
        have hhigh : isHighHalf c.toNat = false := by
          simp only [isHighHalf, Bool.and_eq_false_iff, decide_eq_false_iff_not]
          omega
        have hlow : isLowHalf c.toNat = false := by
          simp only [isLowHalf, Bool.and_eq_false_iff, decide_eq_false_iff_not]
          omega
        rw [join?_code hhigh hlow, ih, Option.map_some, Char.ofNat_toNat]
      · rw [join?, ih, Option.map_some]

/-- **A string is read back from its text.** -/
theorem next?_writeString (s : String) (rest : List Char) :
    next? ((writeString s).toList ++ rest) = some (scalar (string s), rest) := by
  have htext : (writeString s).toList ++ rest
      = '"' :: (s.toList.flatMap writeChar ++ '"' :: rest) := by
    simp [writeString]
  have hvalue : (join? (s.toList.map pieceOf)).map String.ofList = some s := by
    rw [join?_map_pieceOf, Option.map_some, String.ofList_toList]
  rw [htext, next?, pieces?_flatMap_writeChar, Option.map_some]
  exact congrArg (fun t => some (scalar (text t), rest)) hvalue

end JsonToken

/-! ## 3. Tokens -/

namespace Json

open JsonToken

/-- Writing the value loses nothing of it. -/
inductive Faithful : Json → Prop
  | null : Faithful null
  | bool (b : Bool) : Faithful (bool b)
  | int {n : Int} (hlow : Int64.minValue.toInt ≤ n) (hhigh : n < UInt64.size) : Faithful (int n)
  | string (s : String) : Faithful (string s)
  | array {items : List Json} (h : ∀ item ∈ items, Faithful item) : Faithful (array items)
  | object {members : List (String × Json)} (h : ∀ m ∈ members, Faithful m.2) :
      Faithful (record members)

namespace Faithful

theorem uint64 (n : UInt64) : Faithful (nat n.toNat) := by
  have hlt : n.toNat < UInt64.size := n.toNat_lt_size
  have hmin : Int64.minValue.toInt ≤ 0 := by decide
  exact .int (Int.le_trans hmin (Int.natCast_nonneg _)) (Int.ofNat_lt.2 hlt)

theorem int64 (n : Int64) : Faithful (Json.int n.toInt) := by
  have hmax : Int64.maxValue.toInt < UInt64.size := by decide
  exact .int n.minValue_le_toInt (Int.lt_of_le_of_lt n.toInt_le hmax)

theorem ofOption {α : Type} {encode : α → Json} (h : ∀ a, Faithful (encode a)) :
    ∀ o : Option α, Faithful (Json.ofOption encode o)
  | none => .null
  | some a => h a

theorem map {α : Type} {encode : α → Json} (h : ∀ a, Faithful (encode a)) (as : List α) :
    Faithful (Json.array (as.map encode)) := by
  refine .array fun item hitem => ?_
  obtain ⟨a, -, rfl⟩ := List.mem_map.1 hitem
  exact h a

theorem strings : ∀ ss : List String, Faithful (Json.strings ss) :=
  map .string

theorem table {α : Type} {encode : α → Json} (h : ∀ a, Faithful (encode a))
    (entries : List (String × α)) : Faithful (record (entries.map fun e => (e.1, encode e.2))) := by
  refine .object fun m hm => ?_
  obtain ⟨e, -, rfl⟩ := List.mem_map.1 hm
  exact h e.2

end Faithful

mutual

/-- The tokens that write the value. -/
def tokens : Json → List JsonToken
  | array items => openArray :: ([comma].intercalate (itemTokens items) ++ [closeArray])
  | object members => openObject :: ([comma].intercalate (memberTokens members) ++ [closeObject])
  | value => [scalar value]

def itemTokens : List Json → List (List JsonToken)
  | [] => []
  | item :: items => item.tokens :: itemTokens items

def memberTokens : List (JsonText × Json) → List (List JsonToken)
  | [] => []
  | (name, value) :: members => (scalar (text name) :: colon :: value.tokens) :: memberTokens members

end

end Json

namespace JsonToken

/-- The characters that write the token. -/
def chars : JsonToken → List Char
  | openArray => ['[']
  | closeArray => [']']
  | openObject => ['\x7b']
  | closeObject => ['\x7d']
  | colon => [':']
  | comma => [',']
  | scalar value => (write value).toList

/-- Whether the token is one of the signs of the structure. -/
def isSign : JsonToken → Bool
  | scalar _ => false
  | _ => true

theorem next?_sign {t : JsonToken} (h : t.isSign = true) (rest : List Char) :
    next? (t.chars ++ rest) = some (t, rest) := by
  cases t with
  | scalar value => cases h
  | _ => rfl

theorem isFree_sign {t : JsonToken} (h : t.isSign = true) (rest : List Char) :
    IsFree (t.chars ++ rest) := by
  intro c hc
  cases t with
  | scalar value => cases h
  | _ =>
    obtain rfl := Option.mem_some_iff.1 hc
    decide

theorem isFree_nil : IsFree [] := fun c hc => by simp at hc

/-- **The row is scanned back from its characters,** whatever follows that no number in front of
it can take a part of. -/
def Scans (row : List JsonToken) : Prop :=
  ∀ fuel rest, IsFree rest → scanUpTo (row.length + fuel) (row.flatMap chars ++ rest)
    = (scanUpTo fuel rest).map (row ++ ·)

/-- The next token is scanned before the others. -/
theorem scanUpTo_of_next? {t : JsonToken} {c : Char} {cs rest : List Char} (fuel : Nat)
    (htext : t.chars = c :: cs) (hspace : isSpace c = false)
    (hnext : next? (t.chars ++ rest) = some (t, rest)) :
    scanUpTo (fuel + 1) (t.chars ++ rest) = (scanUpTo fuel rest).map (t :: ·) := by
  have hdrop : (t.chars ++ rest).dropWhile isSpace = t.chars ++ rest := by
    rw [htext, List.cons_append, List.dropWhile_cons_of_neg (by simp [hspace])]
  rw [htext, List.cons_append] at hdrop hnext ⊢
  simp only [scanUpTo.eq_def (fuel + 1), hdrop, hnext]

theorem scanUpTo_sign {t : JsonToken} (h : t.isSign = true) (fuel : Nat) (rest : List Char) :
    scanUpTo (fuel + 1) (t.chars ++ rest) = (scanUpTo fuel rest).map (t :: ·) := by
  have hnext := next?_sign h rest
  cases t with
  | scalar value => cases h
  | _ => exact scanUpTo_of_next? fuel rfl (by decide) hnext

theorem Scans.nil : Scans [] := fun fuel rest _ => by simp

/-- Two rows with a sign between them are scanned back if each of them is. -/
theorem Scans.between {row others : List JsonToken} {t : JsonToken} (hrow : Scans row)
    (ht : t.isSign = true) (hothers : Scans others) : Scans (row ++ t :: others) := by
  intro fuel rest hrest
  have htext : (row ++ t :: others).flatMap chars ++ rest
      = row.flatMap chars ++ (t.chars ++ (others.flatMap chars ++ rest)) := by
    simp only [List.flatMap_append, List.flatMap_cons, List.append_assoc]
  have hfuel : (row ++ t :: others).length + fuel = row.length + (others.length + fuel + 1) := by
    simp only [List.length_append, List.length_cons]
    omega
  rw [htext, hfuel, hrow _ _ (isFree_sign ht _), scanUpTo_sign ht, hothers fuel rest hrest,
    Option.map_map, Option.map_map]
  refine congrArg (Option.map · (scanUpTo fuel rest)) (funext fun others' => ?_)
  simp

theorem scans_scalar {value : Json} {c : Char} {cs : List Char}
    (htext : (write value).toList = c :: cs) (hspace : isSpace c = false)
    (hnext : ∀ rest, IsFree rest →
      next? ((write value).toList ++ rest) = some (scalar value, rest)) :
    Scans [scalar value] := by
  intro fuel rest hrest
  have hscan := scanUpTo_of_next? (t := scalar value) fuel htext hspace (hnext rest hrest)
  simpa [Nat.add_comm] using hscan

/-- What begins with a digit or a minus is a number. -/
theorem next?_number {c : Char} (hc : c.isDigit = true ∨ c = '-') (cs : List Char) :
    next? (c :: cs) = (number? (c :: cs)).map fun (n, rest) => (scalar (.number n), rest) := by
  unfold next?
  split
  case h_11 => rfl
  all_goals
    next heq =>
    obtain ⟨rfl, -⟩ := List.cons.inj heq
    exact absurd hc (by decide)

theorem exists_repr_eq_cons (n : Int) :
    ∃ c cs, n.repr.toList = c :: cs ∧ (c.isDigit = true ∨ c = '-') := by
  cases n with
  | ofNat m =>
    have htext : (Int.ofNat m).repr.toList = Nat.toDigits 10 m := Nat.toList_repr
    obtain ⟨d, ds, hds, hdigit⟩ := exists_digit_cons m
    exact ⟨d, ds, htext.trans hds, Or.inl hdigit⟩
  | negSucc m => exact ⟨'-', Nat.toDigits 10 (m + 1), by simp [Int.repr], Or.inr rfl⟩

end JsonToken

namespace Json

open JsonToken

theorem itemTokens_eq_map : ∀ items : List Json, itemTokens items = items.map tokens
  | [] => rfl
  | item :: items => congrArg (item.tokens :: ·) (itemTokens_eq_map items)

theorem memberTokens_eq_map : ∀ members : List (JsonText × Json),
    memberTokens members = members.map fun m => scalar (text m.1) :: colon :: m.2.tokens
  | [] => rfl
  | (name, value) :: members =>
    congrArg ((scalar (text name) :: colon :: value.tokens) :: ·) (memberTokens_eq_map members)

/-- Rows with commas between them are scanned back if each of them is. -/
theorem scans_intercalate {rows : List (List JsonToken)} (h : ∀ row ∈ rows, Scans row) :
    Scans ([comma].intercalate rows) := by
  induction rows with
  | nil => exact Scans.nil
  | cons row rows ih =>
    have hrow := h row List.mem_cons_self
    have hrows := ih fun other hother => h other (List.mem_cons_of_mem row hother)
    cases rows with
    | nil => rwa [List.intercalate_singleton]
    | cons other rows =>
      rw [List.intercalate_cons_cons, List.append_assoc]
      exact hrow.between rfl hrows

/-- A row in a bracket is scanned back with it. -/
theorem scans_bracket {opening closing : JsonToken} (hopening : opening.isSign = true)
    (hclosing : closing.isSign = true) {row : List JsonToken} (h : Scans row) :
    Scans (opening :: (row ++ [closing])) :=
  Scans.nil.between hopening (h.between hclosing Scans.nil)

theorem scans_int {n : Int} (hlow : Int64.minValue.toInt ≤ n) (hhigh : n < UInt64.size) :
    Scans [scalar (int n)] := by
  obtain ⟨c, cs, htext, hc⟩ := exists_repr_eq_cons n
  have hspace : isSpace c = false := by
    rw [Bool.eq_false_iff]
    intro h
    simp only [isSpace, Bool.or_eq_true, beq_iff_eq] at h
    rcases h with ((rfl | rfl) | rfl) | rfl <;> exact absurd hc (by decide)
  refine scans_scalar htext hspace fun rest hrest => ?_
  have hnumber := number?_repr hlow hhigh hrest
  have hwrite : (write (int n)).toList = n.repr.toList := rfl
  rw [hwrite]
  rw [htext, List.cons_append] at hnumber ⊢
  rw [next?_number hc, hnumber]
  rfl

theorem scans_string (s : String) : Scans [scalar (string s)] := by
  have htext : (writeString s).toList = '"' :: (s.toList.flatMap writeChar ++ ['"']) := by
    simp [writeString]
  exact scans_scalar htext (by decide) fun rest _ => next?_writeString s rest

/-- **The tokens of a value are scanned back from their characters.** -/
theorem Faithful.scans {j : Json} (h : j.Faithful) : Scans j.tokens := by
  induction h with
  | null => exact scans_scalar (c := 'n') rfl (by decide) fun _ _ => rfl
  | bool b =>
    cases b with
    | false => exact scans_scalar (c := 'f') rfl (by decide) fun _ _ => rfl
    | true => exact scans_scalar (c := 't') rfl (by decide) fun _ _ => rfl
  | int hlow hhigh => exact scans_int hlow hhigh
  | string s => exact scans_string s
  | array h ih =>
    rw [tokens, itemTokens_eq_map]
    refine scans_bracket rfl rfl (scans_intercalate fun row hrow => ?_)
    obtain ⟨item, hitem, rfl⟩ := List.mem_map.1 hrow
    exact ih item hitem
  | object h ih =>
    rw [record, tokens, memberTokens_eq_map, List.map_map]
    refine scans_bracket rfl rfl (scans_intercalate fun row hrow => ?_)
    obtain ⟨m, hm, rfl⟩ := List.mem_map.1 hrow
    exact (scans_string m.1).between rfl (ih m hm)

theorem writeItems_eq_map : ∀ items : List Json, writeItems items = items.map write
  | [] => rfl
  | item :: items => congrArg (write item :: ·) (writeItems_eq_map items)

theorem writeMembers_eq_map : ∀ members : List (JsonText × Json),
    writeMembers members = members.map fun m => writeText m.1 ++ ":" ++ write m.2
  | [] => rfl
  | (name, value) :: members =>
    congrArg ((writeText name ++ ":" ++ write value) :: ·) (writeMembers_eq_map members)

theorem flatMap_intercalate {α β : Type} (f : α → List β) (sep : List α) (rows : List (List α)) :
    (sep.intercalate rows).flatMap f = (sep.flatMap f).intercalate (rows.map (·.flatMap f)) := by
  induction rows with
  | nil => rfl
  | cons row rows ih =>
    cases rows with
    | nil => simp only [List.map_cons, List.map_nil, List.intercalate_singleton]
    | cons other rows =>
      rw [List.intercalate_cons_cons, List.flatMap_append, List.flatMap_append, ih]
      exact List.intercalate_cons_cons.symm

theorem flatMap_chars_member (name : JsonText) (row : List JsonToken) :
    (scalar (text name) :: colon :: row).flatMap chars
      = (writeText name).toList ++ ":".toList ++ row.flatMap chars := by
  rw [List.flatMap_cons, List.flatMap_cons, chars, chars, write, List.append_assoc]
  rfl

/-- A value is written by its tokens. -/
theorem Faithful.toList_write {j : Json} (h : j.Faithful) :
    (write j).toList = j.tokens.flatMap chars := by
  induction h with
  | array h ih =>
    rename_i items
    have hrows : (items.map tokens).map (·.flatMap chars) = (items.map write).map String.toList := by
      rw [List.map_map, List.map_map]
      exact List.map_congr_left fun item hitem => (ih item hitem).symm
    rw [write, tokens, itemTokens_eq_map, writeItems_eq_map, List.flatMap_cons,
      List.flatMap_append, flatMap_intercalate, hrows]
    simp [String.toList_intercalate, chars]
  | object h ih =>
    rename_i members
    have hrows : ((members.map fun m => (some m.1, m.2)).map
          fun m => scalar (text m.1) :: colon :: m.2.tokens).map (·.flatMap chars)
        = ((members.map fun m => (some m.1, m.2)).map
          fun m => writeText m.1 ++ ":" ++ write m.2).map String.toList := by
      simp only [List.map_map]
      refine List.map_congr_left fun m hm => ?_
      simp only [Function.comp_apply, flatMap_chars_member, String.toList_append, ih m hm]
    rw [record, write, tokens, memberTokens_eq_map, writeMembers_eq_map, List.flatMap_cons,
      List.flatMap_append, flatMap_intercalate, hrows]
    simp only [String.toList_append, String.toList_intercalate, List.flatMap_cons,
      List.flatMap_nil, List.append_nil, chars]
    rfl
  | _ => exact (List.append_nil _).symm

/-! ## 4. Values -/

/-- **The value is read from the front of its tokens,** whatever follows, in two steps for each of
them. -/
def Reads (j : Json) : Prop :=
  ∀ fuel rest, 2 * j.tokens.length ≤ fuel → valueOf? fuel (j.tokens ++ rest) = some (j, rest)

/-- No value begins with the end of an array. -/
theorem head?_tokens (j : Json) : j.tokens.head? ≠ some closeArray := by
  cases j <;> simp [tokens]

theorem tokens_ne_nil (j : Json) : j.tokens ≠ [] := by
  cases j <;> simp [tokens]

theorem head?_intercalate_append {α : Type} {sep row rest : List α} {rows : List (List α)}
    (hne : row ≠ []) : (sep.intercalate (row :: rows) ++ rest).head? = row.head? := by
  cases rows with
  | nil => rw [List.intercalate_singleton, List.head?_append_of_ne_nil _ hne]
  | cons other rows =>
    rw [List.intercalate_cons_cons, List.append_assoc, List.append_assoc,
      List.head?_append_of_ne_nil _ hne]

theorem itemsOf?_tokens {items : List Json} (hne : items ≠ []) (h : ∀ item ∈ items, Reads item) :
    ∀ fuel rest, 2 * ([comma].intercalate (itemTokens items)).length < fuel →
      itemsOf? fuel ([comma].intercalate (itemTokens items) ++ closeArray :: rest)
        = some (items, rest) := by
  induction items with
  | nil => exact absurd rfl hne
  | cons item items ih =>
    intro fuel rest hfuel
    have hitem := h item List.mem_cons_self
    obtain ⟨fuel, rfl⟩ := Nat.exists_eq_add_one_of_ne_zero (Nat.ne_zero_of_lt hfuel)
    cases items with
    | nil =>
      simp only [itemTokens, List.intercalate_singleton] at hfuel ⊢
      rw [itemsOf?, hitem fuel _ (by omega)]
    | cons other items =>
      have hitems := ih (List.cons_ne_nil _ _) fun d hd => h d (List.mem_cons_of_mem item hd)
      simp only [itemTokens, List.intercalate_cons_cons, List.append_assoc, List.length_append,
        List.length_cons, List.cons_append, List.nil_append] at hfuel hitems ⊢
      rw [itemsOf?, hitem fuel _ (by omega)]
      simp only [hitems fuel rest (by omega), Option.map_some]

theorem membersOf?_tokens {members : List (JsonText × Json)} (hne : members ≠ [])
    (h : ∀ m ∈ members, Reads m.2) :
    ∀ fuel rest, 2 * ([comma].intercalate (memberTokens members)).length < fuel →
      membersOf? fuel ([comma].intercalate (memberTokens members) ++ closeObject :: rest)
        = some (members, rest) := by
  induction members with
  | nil => exact absurd rfl hne
  | cons m members ih =>
    intro fuel rest hfuel
    have hvalue := h m List.mem_cons_self
    obtain ⟨fuel, rfl⟩ := Nat.exists_eq_add_one_of_ne_zero (Nat.ne_zero_of_lt hfuel)
    cases members with
    | nil =>
      simp only [memberTokens, List.intercalate_singleton, List.length_cons, List.cons_append]
        at hfuel ⊢
      rw [membersOf?, hvalue fuel _ (by omega)]
    | cons other members =>
      have hmembers := ih (List.cons_ne_nil _ _) fun d hd => h d (List.mem_cons_of_mem m hd)
      simp only [memberTokens, List.intercalate_cons_cons, List.append_assoc, List.length_append,
        List.length_cons, List.cons_append, List.nil_append] at hfuel hmembers ⊢
      rw [membersOf?, hvalue fuel _ (by omega)]
      simp only [hmembers fuel rest (by omega), Option.map_some]

theorem Reads.array {items : List Json} (h : ∀ item ∈ items, Reads item) :
    Reads (array items) := by
  intro fuel rest hfuel
  rw [tokens, List.length_cons, List.length_append, List.length_singleton] at hfuel
  rw [tokens, List.cons_append, List.append_assoc, List.singleton_append]
  cases items with
  | nil => exact valueOf?.eq_2 fuel rest
  | cons item items =>
    obtain ⟨fuel, rfl⟩ := Nat.exists_eq_add_one_of_ne_zero (show fuel ≠ 0 by omega)
    have hread := itemsOf?_tokens (List.cons_ne_nil item items) h fuel rest (by omega)
    have hopen : ∀ others, [comma].intercalate (itemTokens (item :: items)) ++ closeArray :: rest
        ≠ closeArray :: others := by
      intro others heq
      have hhead := congrArg List.head? heq
      rw [itemTokens, head?_intercalate_append item.tokens_ne_nil] at hhead
      exact item.head?_tokens hhead
    rw [valueOf?.eq_4 fuel _ hopen, hread, Option.map_some]

theorem Reads.object {members : List (JsonText × Json)} (h : ∀ m ∈ members, Reads m.2) :
    Reads (object members) := by
  intro fuel rest hfuel
  rw [tokens, List.length_cons, List.length_append, List.length_singleton] at hfuel
  rw [tokens, List.cons_append, List.append_assoc, List.singleton_append]
  cases members with
  | nil => exact valueOf?.eq_3 fuel rest
  | cons m members =>
    obtain ⟨fuel, rfl⟩ := Nat.exists_eq_add_one_of_ne_zero (show fuel ≠ 0 by omega)
    have hread := membersOf?_tokens (List.cons_ne_nil m members) h fuel rest (by omega)
    have hopen : ∀ others, [comma].intercalate (memberTokens (m :: members)) ++ closeObject :: rest
        ≠ closeObject :: others := by
      intro others heq
      have hhead := congrArg List.head? heq
      rw [memberTokens, head?_intercalate_append (List.cons_ne_nil _ _), List.head?_cons,
        List.head?_cons] at hhead
      cases hhead
    rw [valueOf?.eq_5 fuel _ hopen, hread, Option.map_some]

theorem Faithful.reads {j : Json} (h : j.Faithful) : Reads j := by
  induction h with
  | array _ ih => exact Reads.array ih
  | object _ ih =>
    refine Reads.object fun m hm => ?_
    obtain ⟨d, hd, rfl⟩ := List.mem_map.1 hm
    exact ih d hd
  | _ => exact fun fuel rest _ => valueOf?.eq_1 fuel _ rest

/-! ## 5. Texts -/

/-- Every token is written with a character at least. -/
theorem chars_ne_nil (t : JsonToken) : t.chars ≠ [] := by
  cases t with
  | scalar value =>
    cases value with
    | bool b => cases b <;> simp [chars, write]
    | number n =>
      cases n with
      | integer n =>
        obtain ⟨c, cs, htext, -⟩ := exists_repr_eq_cons n
        simp only [chars, write, htext, ne_eq, List.cons_ne_nil, not_false_eq_true]
      | real finite => simp [chars, write]
    | text t => simp [chars, write, writeText, writeString]
    | _ => simp [chars, write]
  | _ => exact List.cons_ne_nil _ _

theorem length_le_length_chars : ∀ row : List JsonToken,
    row.length ≤ (row.flatMap chars).length
  | [] => Nat.le_refl 0
  | t :: row => by
    have hpos := List.length_pos_iff.2 (chars_ne_nil t)
    have hrow := length_le_length_chars row
    rw [List.flatMap_cons, List.length_append, List.length_cons]
    omega

theorem Faithful.scan?_write {j : Json} (h : j.Faithful) :
    scan? (write j).toList = some j.tokens := by
  have hlength := length_le_length_chars j.tokens
  have hrest : ∀ fuel, scanUpTo fuel [] = some [] := by rintro (_ | fuel) <;> rfl
  have hscan := h.scans ((j.tokens.flatMap chars).length - j.tokens.length) [] isFree_nil
  rw [Nat.add_sub_cancel' hlength, List.append_nil, hrest, Option.map_some, List.append_nil]
    at hscan
  rwa [scan?, h.toList_write]

/-- **A value is read back from the text that writes it,** if writing loses nothing of it. -/
theorem Faithful.read?_write {j : Json} (h : j.Faithful) : read? (write j) = some j := by
  have hread := h.reads (2 * j.tokens.length) [] (Nat.le_refl _)
  rw [List.append_nil] at hread
  simp only [read?, h.scan?_write, hread]

end Json

end VerseQuery
