/-
# Lower case and folding

A term is kept in lower case, and a search that case does not count for folds.  These are two
mappings.  A lower-case form can depend on what stands around a character (the capital sigma) or have
two characters (the dotted capital I), and the two tables come from two editions of the data.

Still they agree on nearly all there is: the lower-case form of a character folds to what the
character itself folds to, but for 29 capitals that folding leaves where they are
(`exists_lowerChar_eq`).  So a term without these reads like its normal form (`sameText_normal`).
-/
import VerseQuery.Proofs.Compiled
import VerseQuery.Proofs.Folding
import VerseQuery.Text.LowerCase

namespace VerseQuery

open Text

/-! ## 1. Mappings of code points -/

/-- Where a list of runs takes the code point, which stays where it is if none moves it. -/
def codeIn (n : Nat) : List CaseRun → Nat
  | [] => n
  | run :: rest =>
    match Nat.ble run.first n && (Nat.ble n run.last && Nat.beq ((n - run.first) % run.step) 0) with
    | true => run.image + (n - run.first)
    | false => codeIn n rest

/-- Where a table takes the code point. -/
def codeAt (n : Nat) : List (CodeBlock CaseRun) → Nat
  | [] => n
  | block :: rest =>
    match Nat.blt block.last n with
    | true => codeAt n rest
    | false => codeIn n block.entries

theorem codeIn_eq (n : Nat) (runs : List CaseRun) :
    codeIn n runs = ((runs.find? (·.moves n)).map (·.apply n)).getD n := by
  induction runs with
  | nil => rfl
  | cons run rest ih =>
    have hmoves : (Nat.ble run.first n &&
        (Nat.ble n run.last && Nat.beq ((n - run.first) % run.step) 0)) = run.moves n := by
      rw [Bool.eq_iff_iff]
      simp [CaseRun.moves, and_assoc]
    rw [codeIn, hmoves, List.find?_cons]
    split
    · rename_i h
      rw [h]
      rfl
    · rename_i h
      rw [h, ih]

theorem codeAt_eq (n : Nat) (table : List (CodeBlock CaseRun)) :
    codeAt n table = codeIn n (CodeBlock.entriesAt n table) := by
  induction table with
  | nil => rfl
  | cons block rest ih =>
    rw [codeAt, CodeBlock.entriesAt]
    split
    · rename_i h
      rw [Nat.blt_eq] at h
      rw [if_pos h, ih]
    · rename_i h
      rw [← Bool.not_eq_true, Nat.blt_eq] at h
      rw [if_neg h]

/-- A mapping takes a character where it takes its code point. -/
theorem mapChar_eq_ofNat (table : List (CodeBlock CaseRun)) (c : Char) :
    CaseRun.mapChar table c = Char.ofNat (codeAt c.toNat table) := by
  rw [CaseRun.mapChar, codeAt_eq, codeIn_eq]
  split
  · rename_i run hrun
    rw [hrun]
    rfl
  · rename_i hnone
    rw [hnone]
    exact (Char.ofNat_toNat c).symm

/-! ## 2. One character -/

/-- The code points of the capitals that folding leaves where they are: the dotted capital I, whose
lower-case form has two characters, and those that are newer than the folding data. -/
def isUnfoldedCode (n : Nat) : Bool :=
  Nat.beq n 0x130 || (Nat.beq n 0xA7CE || (Nat.beq n 0xA7D2 || (Nat.beq n 0xA7D4 ||
    (Nat.ble 0x16EA0 n && Nat.ble n 0x16EB8))))

def isUnfoldedCapital (c : Char) : Bool :=
  isUnfoldedCode c.toNat

/-- Each run of the table of lower-case forms leads to characters, and but for those capitals to ones
that fold alike. -/
theorem lowerTable_folds : (lowerTable.all fun block => block.entries.all fun run =>
    areValid run.image (run.image + (run.last - run.first)) &&
      (offsets run).all fun i => isUnfoldedCode (run.first + i) ||
        Nat.beq (codeAt (run.image + i) foldTable) (codeAt (run.first + i) foldTable)) = true := by
  decide +kernel

/-- The table leaves a character where it is, or takes its code point along a run. -/
theorem mapChar_lowerTable_cases (c : Char) : CaseRun.mapChar lowerTable c = c ∨
    ∃ block ∈ lowerTable, ∃ run ∈ block.entries, run.moves c.toNat = true ∧
      (CaseRun.mapChar lowerTable c).toNat = run.image + (c.toNat - run.first) := by
  refine (mapChar_cases lowerTable c).imp_right fun ⟨block, hblock, run, hrun, hmoves, hc⟩ => ?_
  refine ⟨block, hblock, run, hrun, hmoves, ?_⟩
  have hcheck := List.all_eq_true.1 (List.all_eq_true.1 lowerTable_folds block hblock) run hrun
  rw [Bool.and_eq_true] at hcheck
  simp only [CaseRun.moves, Bool.and_eq_true, decide_eq_true_eq] at hmoves
  have hvalid : (run.apply c.toNat).isValidChar := by
    unfold CaseRun.apply
    exact isValidChar_of_areValid hcheck.1 (by omega) (by omega)
  rw [hc, toNat_ofNat hvalid, CaseRun.apply]

theorem foldChar_mapChar_lowerTable {c : Char} (h : isUnfoldedCapital c = false) :
    foldChar (CaseRun.mapChar lowerTable c) = foldChar c := by
  rcases mapChar_lowerTable_cases c with hc | ⟨block, hblock, run, hrun, hmoves, hvalue⟩
  · rw [hc]
  · have hcheck := List.all_eq_true.1 (List.all_eq_true.1 lowerTable_folds block hblock) run hrun
    rw [Bool.and_eq_true] at hcheck
    have hcode := List.all_eq_true.1 hcheck.2 _ (mem_offsets hmoves)
    simp only [CaseRun.moves, Bool.and_eq_true, decide_eq_true_eq] at hmoves
    have hself : run.first + (c.toNat - run.first) = c.toNat := by omega
    rw [hself, show isUnfoldedCode c.toNat = false from h, Bool.false_or, Nat.beq_eq] at hcode
    have hfold : ∀ d : Char, foldChar d = Char.ofNat (codeAt d.toNat foldTable) :=
      mapChar_eq_ofNat foldTable
    rw [hfold, hfold, hvalue, hcode]

/-- **The lower-case form of a character is one that folds alike**, wherever it stands, unless it is
one of those capitals. -/
theorem exists_lowerChar_eq {before after : List Char} {c : Char}
    (h : isUnfoldedCapital c = false) :
    ∃ d, lowerChar before c after = [d] ∧ foldChar d = foldChar c := by
  rw [lowerChar]
  split
  · rename_i hsigma
    subst hsigma
    split
    · exact ⟨_, rfl, by decide +kernel⟩
    · exact ⟨_, rfl, by decide +kernel⟩
  · split
    · rename_i hdotted
      subst hdotted
      exact absurd h (by decide)
    · exact ⟨_, rfl, foldChar_mapChar_lowerTable h⟩

/-! ## 3. A term -/

theorem sameText_lowerAfter {before cs : List Char}
    (h : ∀ c ∈ cs, isUnfoldedCapital c = false) : SameText .folded (lowerAfter before cs) cs := by
  induction cs generalizing before with
  | nil => exact SameText.rfl []
  | cons c rest ih =>
    rw [List.forall_mem_cons] at h
    obtain ⟨d, hd, hfold⟩ := @exists_lowerChar_eq before rest c h.1
    rw [lowerAfter, hd, List.singleton_append]
    exact SameText.cons_iff.2 ⟨d, _, rfl, hfold, ih h.2⟩

/-- What is left of a text after trimming stands in it. -/
theorem trim_isInfix (s : String) : (trim s).toList <:+: s.toList := by
  rw [trim, String.toList_ofList]
  exact (List.rdropWhile_prefix isBlank (s.toList.dropWhile isBlank)).isInfix.trans
    (List.dropWhile_suffix isBlank).isInfix

/-- **A term reads like its normal form** but for blanks at its ends, if none of those capitals is in
it. -/
theorem sameText_normal {s : String} (h : ∀ c ∈ s.toList, isUnfoldedCapital c = false) :
    SameText .folded (normal s).toList (trim s).toList := by
  rw [normal, lower, String.toList_ofList]
  exact sameText_lowerAfter fun c hc => h c ((trim_isInfix s).subset hc)

end VerseQuery
