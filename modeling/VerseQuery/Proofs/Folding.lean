/-
# What folding leaves as it is

Folding moves word characters only, and only to word characters (`foldChar_eq_self_or`).  That is
read off the two tables, run by run.  So all that texts are told apart by, besides the characters
themselves, is the same in a text and in another that agrees with it but for case: where its word
characters are, where its line feeds are, and which of it is blank.
-/
import VerseQuery.Proofs.Characters
import VerseQuery.Proofs.Pieces

namespace VerseQuery

open Text

/-! ## 1. Folding moves word characters -/

/-- Whether one range of the table has all the code points from `a` to `b`. -/
def coversAll (a b : Nat) : List (CodeBlock (Nat × Nat)) → Bool
  | [] => false
  | block :: rest =>
    match Nat.blt block.last a with
    | true => coversAll a b rest
    | false => Nat.ble b block.last &&
        block.entries.any fun range => Nat.ble range.1 a && Nat.ble b range.2

theorem covers_of_coversAll {a b n : Nat} (ha : a ≤ n) (hb : n ≤ b) :
    ∀ {table : List (CodeBlock (Nat × Nat))}, coversAll a b table = true →
      CodeBlock.covers table n = true
  | [], h => absurd h Bool.false_ne_true
  | block :: rest, h => by
    rw [coversAll] at h
    rw [CodeBlock.covers, CodeBlock.entriesAt]
    split at h
    · rename_i hlast
      rw [if_pos (by simp at hlast; omega)]
      exact covers_of_coversAll ha hb h
    · rw [Bool.and_eq_true, Nat.ble_eq] at h
      obtain ⟨hlast, hany⟩ := h
      obtain ⟨range, hmem, hrange⟩ := List.any_eq_true.1 hany
      rw [Bool.and_eq_true, Nat.ble_eq, Nat.ble_eq] at hrange
      rw [if_neg (by omega), List.any_eq_true]
      exact ⟨range, hmem, by simp only [Bool.and_eq_true, decide_eq_true_eq]; omega⟩

/-- How far the code points that a run moves are from its first one. -/
def offsets (run : CaseRun) : List Nat :=
  (List.range ((run.last - run.first) / run.step + 1)).map (· * run.step)

theorem mem_offsets {run : CaseRun} {n : Nat} (h : run.moves n = true) :
    n - run.first ∈ offsets run := by
  simp only [CaseRun.moves, Bool.and_eq_true, decide_eq_true_eq, beq_iff_eq] at h
  obtain ⟨⟨-, hlast⟩, hstep⟩ := h
  have hfar : (n - run.first) / run.step * run.step = n - run.first :=
    Nat.div_mul_cancel (Nat.dvd_of_mod_eq_zero hstep)
  have hround : (n - run.first) / run.step ≤ (run.last - run.first) / run.step :=
    Nat.div_le_div_right (by omega)
  exact List.mem_map.2 ⟨_, List.mem_range.2 (by omega), hfar⟩

/-- The code points that a run moves, as stretches that begin and end so far from its first one: all
in one if it moves each, or else each by itself. -/
def stretches (run : CaseRun) : List (Nat × Nat) :=
  match run.step with
  | 1 => [(0, run.last - run.first)]
  | step => (List.range ((run.last - run.first) / step + 1)).map fun i => (i * step, i * step)

theorem exists_mem_stretches {run : CaseRun} {n : Nat} (h : run.moves n = true) :
    ∃ stretch ∈ stretches run, run.first + stretch.1 ≤ n ∧ n ≤ run.first + stretch.2 := by
  have hoffset := mem_offsets h
  simp only [CaseRun.moves, Bool.and_eq_true, decide_eq_true_eq] at h
  obtain ⟨⟨hfirst, hlast⟩, -⟩ := h
  rw [stretches]
  split
  · exact ⟨_, List.mem_singleton.2 rfl, hfirst, by omega⟩
  · obtain ⟨i, hi, hfar⟩ := List.mem_map.1 hoffset
    refine ⟨_, List.mem_map.2 ⟨i, hi, rfl⟩, ?_⟩
    dsimp only
    omega

/-- Whether a number from `a` to `b` is a code point, whichever it is. -/
def areValid (a b : Nat) : Bool :=
  Nat.blt b 0xD800 || (Nat.blt 0xDFFF a && Nat.blt b 0x110000)

theorem isValidChar_of_areValid {a b n : Nat} (h : areValid a b = true) (ha : a ≤ n) (hb : n ≤ b) :
    n.isValidChar := by
  simp only [areValid, Bool.or_eq_true, Bool.and_eq_true, Nat.blt_eq] at h
  simp only [Nat.isValidChar]
  omega

/-- Each run of the folding table leads from word characters to word characters. -/
theorem foldTable_word : (foldTable.all fun block => block.entries.all fun run =>
    (stretches run).all fun (i, j) => coversAll (run.first + i) (run.first + j) wordTable &&
      (coversAll (run.image + i) (run.image + j) wordTable &&
        areValid (run.image + i) (run.image + j))) = true := by
  decide +kernel

/-- In ASCII, the table of word characters holds the same ones. -/
theorem covers_wordTable_ascii : ∀ n < 128,
    CodeBlock.covers wordTable n = isAsciiWordChar (Char.ofNat n) := by
  decide +kernel

theorem isWordChar_eq_covers (c : Char) : isWordChar c = CodeBlock.covers wordTable c.toNat := by
  rw [isWordChar]
  split
  · rename_i h
    rw [covers_wordTable_ascii c.toNat h, Char.ofNat_toNat]
  · rfl

/-- **Folding moves word characters only, and only to word characters.** -/
theorem foldChar_eq_self_or (c : Char) :
    foldChar c = c ∨ isWordChar c = true ∧ isWordChar (foldChar c) = true := by
  refine (foldChar_cases c).imp_right fun ⟨block, hblock, run, hrun, hmoves, hfold⟩ => ?_
  obtain ⟨⟨i, j⟩, hstretch, hi, hj⟩ := exists_mem_stretches hmoves
  have hword := List.all_eq_true.1 (List.all_eq_true.1 (List.all_eq_true.1 foldTable_word block
    hblock) run hrun) (i, j) hstretch
  rw [Bool.and_eq_true, Bool.and_eq_true] at hword
  obtain ⟨hsource, himage, hvalid⟩ := hword
  have hfirst : run.first ≤ c.toNat := by omega
  have hcode : (foldChar c).toNat = run.apply c.toNat := by
    have hisValid : (run.apply c.toNat).isValidChar := by
      rw [CaseRun.apply]
      exact isValidChar_of_areValid hvalid (by omega) (by omega)
    rw [hfold, toNat_ofNat hisValid]
  rw [isWordChar_eq_covers, isWordChar_eq_covers, hcode, CaseRun.apply]
  exact ⟨covers_of_coversAll hi hj hsource, covers_of_coversAll (by omega) (by omega) himage⟩

/-! ## 2. What depends on the key of a character only -/

section Keys

variable (mode : CaseMode)

theorem key_eq_self_or (c : Char) :
    mode.key c = c ∨ isWordChar c = true ∧ isWordChar (mode.key c) = true := by
  cases mode with
  | exact => exact Or.inl rfl
  | folded => exact foldChar_eq_self_or c

theorem isWordChar_key (c : Char) : isWordChar (mode.key c) = isWordChar c := by
  rcases key_eq_self_or mode c with h | ⟨hc, hkey⟩
  · rw [h]
  · rw [hkey, hc]

/-- What holds of no word character holds of a character if it holds of its key. -/
theorem key_of_not_word {P : Char → Bool} (hP : ∀ c, P c = true → isWordChar c = false) (c : Char) :
    P (mode.key c) = P c := by
  have hnot : ∀ {c}, isWordChar c = true → P c = false := by
    intro c hc
    rw [← Bool.not_eq_true]
    exact fun h => absurd (hc.symm.trans (hP c h)) (by decide)
  rcases key_eq_self_or mode c with h | ⟨hc, hkey⟩
  · rw [h]
  · rw [hnot hc, hnot hkey]

theorem isBlank_key (c : Char) : isBlank (mode.key c) = isBlank c :=
  key_of_not_word mode (fun _ => isWordChar_of_isBlank) c

theorem isBlank_comp_key : isBlank ∘ mode.key = isBlank :=
  funext (isBlank_key mode)

theorem isLineFeed_key (c : Char) : (mode.key c == '\n') = (c == '\n') := by
  refine key_of_not_word mode (P := (· == '\n')) (fun c hc => ?_) c
  rw [beq_iff_eq.1 hc]
  decide

variable {mode}

/-- **No set tells characters apart that have one key.** -/
theorem CharSet.has_eq_of_key_eq (set : CharSet) {c d : Char} (h : mode.key c = mode.key d) :
    set.has mode c = set.has mode d := by
  cases set with
  | char e => rw [has, has, h]
  | word => rw [has, has, ← isWordChar_key mode c, h, isWordChar_key]
  | asciiWord => rw [has, has, h]
  | asciiSeparator => rw [has, has, h]
  | any => rw [has, has, bne, bne, ← isLineFeed_key mode c, h, isLineFeed_key]

end Keys

/-! ## 3. Trimming -/

namespace SameText

variable {mode : CaseMode} {a b c : List Char}

theorem symm (h : SameText mode a b) : SameText mode b a :=
  Eq.symm h

theorem trans (hab : SameText mode a b) (hbc : SameText mode b c) : SameText mode a c :=
  Eq.trans hab hbc

/-- What agrees is trimmed alike. -/
theorem trimChars (h : SameText mode a b) : SameText mode (trimChars a) (trimChars b) := by
  have hkey : ∀ cs : List Char,
      (Text.trimChars cs).map mode.key = Text.trimChars (cs.map mode.key) := by
    intro cs
    have hdrop : ∀ cs : List Char,
        (cs.dropWhile isBlank).map mode.key = (cs.map mode.key).dropWhile isBlank := by
      intro cs
      rw [List.dropWhile_map, isBlank_comp_key]
    rw [Text.trimChars, Text.trimChars, List.map_reverse, hdrop, List.map_reverse, hdrop]
  rw [SameText, hkey, hkey, h]

/-- What agrees is blank alike. -/
theorem isBlankText {s t : String} (h : SameText mode s.toList t.toList) :
    isBlankText s = isBlankText t := by
  have hkey : ∀ cs : List Char, cs.all isBlank = (cs.map mode.key).all isBlank := by
    intro cs
    rw [List.all_map, isBlank_comp_key]
  rw [Text.isBlankText, Text.isBlankText, hkey, h, ← hkey]

theorem trim {s t : String} (h : SameText mode s.toList t.toList) :
    SameText mode (trim s).toList (trim t).toList := by
  rw [Text.trim, Text.trim, String.toList_ofList, String.toList_ofList]
  exact h.trimChars

end SameText

end VerseQuery
