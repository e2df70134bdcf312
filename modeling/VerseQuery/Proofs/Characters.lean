/-
# Kinds of characters

What folding does to the ASCII word characters, and which characters the blanks are.  Both are read
off the tables once, here.
-/
import VerseQuery.Pattern.Basic
import VerseQuery.Text.Blank

namespace VerseQuery

open Text

/-! ## 1. Word characters between two words -/

/-- The characters that make up the words between two words: the ASCII word characters and, if case
does not count, the long s and the kelvin sign, which fold to one. -/
def isGapWordChar (mode : CaseMode) (c : Char) : Bool :=
  isAsciiWordChar c || (mode == .folded && (c == '\u017F' || c == '\u212A'))

theorem exists_mem_entriesAt {α : Type} {n : Nat} {entry : α} :
    ∀ {table : List (CodeBlock α)}, entry ∈ CodeBlock.entriesAt n table →
      ∃ block ∈ table, entry ∈ block.entries
  | [], h => absurd h List.not_mem_nil
  | block :: rest, h => by
    rw [CodeBlock.entriesAt] at h
    split at h
    · obtain ⟨found, hmem, hentry⟩ := exists_mem_entriesAt h
      exact ⟨found, List.mem_cons_of_mem _ hmem, hentry⟩
    · exact ⟨block, List.mem_cons_self, h⟩

/-- A mapping leaves a character where it is, or takes it along a run of its table. -/
theorem mapChar_cases (table : List (CodeBlock CaseRun)) (c : Char) :
    CaseRun.mapChar table c = c ∨ ∃ block ∈ table, ∃ run ∈ block.entries,
      run.moves c.toNat = true ∧ CaseRun.mapChar table c = Char.ofNat (run.apply c.toNat) := by
  rw [CaseRun.mapChar]
  split
  · rename_i run hrun
    obtain ⟨block, hblock, hentry⟩ := exists_mem_entriesAt (List.mem_of_find?_eq_some hrun)
    have hmoves : run.moves c.toNat = true :=
      List.find?_some (p := fun run => CaseRun.moves run c.toNat) hrun
    exact Or.inr ⟨block, hblock, run, hentry, hmoves, rfl⟩
  · exact Or.inl rfl

theorem foldChar_cases (c : Char) : foldChar c = c ∨ ∃ block ∈ foldTable, ∃ run ∈ block.entries,
    run.moves c.toNat = true ∧ foldChar c = Char.ofNat (run.apply c.toNat) :=
  mapChar_cases foldTable c

theorem toNat_lt_of_isAsciiWordChar {c : Char} (h : isAsciiWordChar c = true) : c.toNat < 128 := by
  delta isAsciiWordChar Char.isAlphanum Char.isAlpha Char.isUpper Char.isLower Char.isDigit at h
  simp only [Bool.or_eq_true, Bool.and_eq_true, decide_eq_true_eq, beq_iff_eq,
    UInt32.le_iff_toNat_le, ge_iff_le] at h
  change (((65 ≤ c.toNat ∧ c.toNat ≤ 90) ∨ (97 ≤ c.toNat ∧ c.toNat ≤ 122)) ∨
    (48 ≤ c.toNat ∧ c.toNat ≤ 57)) ∨ c = '_' at h
  rcases h with ((h | h) | h) | rfl
  · omega
  · omega
  · omega
  · decide

theorem isAsciiWordChar_of_le {c : Char} (h : 128 ≤ c.toNat) : isAsciiWordChar c = false := by
  rw [← Bool.not_eq_true]
  exact fun hc => absurd (toNat_lt_of_isAsciiWordChar hc) (Nat.not_lt.2 h)

/-- A code point is that of the character it stands for. -/
theorem toNat_ofNat {n : Nat} (h : n.isValidChar) : (Char.ofNat n).toNat = n := by
  rw [Char.ofNat, dif_pos h]
  rfl

/-- A code point beyond ASCII, or none at all, is no ASCII word character. -/
theorem isAsciiWordChar_ofNat_of_le {n : Nat} (h : 128 ≤ n) :
    isAsciiWordChar (Char.ofNat n) = false := by
  by_cases hn : n.isValidChar
  · exact isAsciiWordChar_of_le ((toNat_ofNat hn).symm ▸ h)
  · rw [Char.ofNat, dif_neg hn]
    decide

/-- The runs of the table that start in ASCII are those of the capital letters; of the others only
two, of one character each, lead back into ASCII. -/
theorem foldTable_ascii : ∀ block ∈ foldTable, ∀ run ∈ block.entries, 128 ≤ run.image ∨
    run.last < 128 ∨ (run.first = 0x17F ∧ run.last = 0x17F) ∨
      (run.first = 0x212A ∧ run.last = 0x212A) := by
  decide +kernel

/-- In ASCII, folding keeps word characters and the others apart. -/
theorem isAsciiWordChar_foldChar_ascii : ∀ n < 128,
    isAsciiWordChar (foldChar (Char.ofNat n)) = isAsciiWordChar (Char.ofNat n) := by
  decide +kernel

/-- **The two sets a gap is written with hold just the word characters and the others.** -/
theorem isAsciiWordChar_key (mode : CaseMode) (c : Char) :
    isAsciiWordChar (mode.key c) = isGapWordChar mode c := by
  cases mode with
  | exact => exact (Bool.or_false _).symm
  | folded =>
    show isAsciiWordChar (foldChar c)
      = (isAsciiWordChar c || (true && (c == '\u017F' || c == '\u212A')))
    rw [Bool.true_and]
    by_cases hlow : c.toNat < 128
    · have h := isAsciiWordChar_foldChar_ascii c.toNat hlow
      rw [Char.ofNat_toNat] at h
      have hs : c ≠ '\u017F' ∧ c ≠ '\u212A' := by
        constructor <;> rintro rfl <;> exact absurd hlow (by decide)
      simp [h, hs]
    · by_cases hs : c = '\u017F'
      · subst hs
        decide +kernel
      by_cases hk : c = '\u212A'
      · subst hk
        decide +kernel
      have hhigh : isAsciiWordChar c = false := isAsciiWordChar_of_le (by omega)
      have hfold : isAsciiWordChar (foldChar c) = false := by
        rcases foldChar_cases c with hc | ⟨block, hblock, run, hrun, hmoves, hc⟩
        · rw [hc, hhigh]
        · have hrange : run.first ≤ c.toNat ∧ c.toNat ≤ run.last := by
            simp only [CaseRun.moves, Bool.and_eq_true, decide_eq_true_eq] at hmoves
            exact hmoves.1
          have hns : c.toNat ≠ 0x17F := fun h => hs (Char.toNat_inj.1 h)
          have hnk : c.toNat ≠ 0x212A := fun h => hk (Char.toNat_inj.1 h)
          rw [hc]
          refine isAsciiWordChar_ofNat_of_le ?_
          rw [CaseRun.apply]
          rcases foldTable_ascii block hblock run hrun with h | h | h | h <;> omega
      simp [hfold, hhigh, hs, hk]

theorem CharSet.has_asciiWord (mode : CaseMode) (c : Char) :
    asciiWord.has mode c = isGapWordChar mode c :=
  isAsciiWordChar_key mode c

theorem CharSet.has_asciiSeparator (mode : CaseMode) (c : Char) :
    asciiSeparator.has mode c = !isGapWordChar mode c :=
  congrArg (!·) (isAsciiWordChar_key mode c)

/-! ## 2. Blanks -/

/-- The code points of the blanks. -/
def blankCodes : List Nat :=
  [0x9, 0xA, 0xB, 0xC, 0xD, 0x20, 0x85, 0xA0, 0x1680, 0x2000, 0x2001, 0x2002, 0x2003, 0x2004,
    0x2005, 0x2006, 0x2007, 0x2008, 0x2009, 0x200A, 0x2028, 0x2029, 0x202F, 0x205F, 0x3000]

theorem mem_blankCodes {c : Char} (h : isBlank c = true) : c.toNat ∈ blankCodes := by
  simp only [isBlank, Bool.or_eq_true, Bool.and_eq_true, decide_eq_true_eq, beq_iff_eq] at h
  simp only [blankCodes, List.mem_cons, List.not_mem_nil, or_false]
  omega

/-- A blank is no word character. -/
theorem isWordChar_of_isBlank {c : Char} (h : isBlank c = true) : isWordChar c = false := by
  have hcodes : ∀ n ∈ blankCodes, isWordChar (Char.ofNat n) = false := by decide +kernel
  have hc := hcodes c.toNat (mem_blankCodes h)
  rwa [Char.ofNat_toNat] at hc

end VerseQuery
