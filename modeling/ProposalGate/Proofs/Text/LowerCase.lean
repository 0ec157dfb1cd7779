import Mathlib.Data.List.Basic
import ProposalGate.Proofs.Text.Blank
import ProposalGate.Text.LowerCase

/-!
# What lower case leaves alone

Author lists are read by their blanks and at signs, and their tokens are put in lower case
afterwards, some of them twice. That is safe because lower case makes neither a blank nor an at
sign out of anything else (`lowerChar_isMark`). The table of capitals is checked once, run by run
against range by range; everything else is about the two capitals that are not in it.

A text that begins with neither still does after it was put in lower case (`lowerFrom_cons`). The
other way round, lower case leaves blanks where they are (`lowerFrom_cons_of_isBlank`), and a text
that does not end in one still does not (`isBlank_of_getLast?_lowerFrom`).

Nor does lower case make capitals (`isSmall_of_mem_lowerChar`), which takes the table once more, run
by run against itself. So it leaves alone what is in lower case (`lowerFrom_lowerFrom`).
-/

namespace ProposalGate.Text

variable {c d : Char}

/-- The blanks and the at sign. -/
def markRanges : Ranges :=
  ('@'.toNat, '@'.toNat) :: blankRanges

/-- Whether a character is a blank or an at sign. -/
def isMark (c : Char) : Bool :=
  markRanges.contains c.toNat

theorem isMark_eq_false_iff : isMark c = false ↔ c ≠ '@' ∧ isBlank c = false := by
  have hat : c.toNat = 64 ↔ c = '@' := Char.toNat_inj (d := '@')
  have hmark : isMark c = (decide (c = '@') || isBlank c) := by
    rw [isMark, markRanges, Ranges.contains, List.any_cons, isBlank, Ranges.contains,
      ← Bool.decide_and]
    congr 2
    rw [← hat, ← Nat.le_antisymm_iff]
    exact propext eq_comm
  rw [hmark, Bool.or_eq_false_iff, decide_eq_false_iff_not]

/-- A code point that is no character stands for the null character. -/
theorem toNat_ofNat (point : Nat) :
    (Char.ofNat point).toNat = point ∨ (Char.ofNat point).toNat = 0 := by
  by_cases h : point.isValidChar
  · left
    rw [Char.ofNat, dif_pos h]
    rfl
  · right
    rw [Char.ofNat, dif_neg h]
    rfl

/-- No run of capitals has a mark among its small letters, and the null character is none. -/
theorem shifts_avoid_marks : ∀ run ∈ shifts, ∀ range ∈ markRanges, 0 < range.1 ∧
    (run.last + run.shift < range.1 ∨ range.2 < run.first + run.shift) := by
  decide +kernel

theorem lowerChar_ne_nil (c : Char) : lowerChar c ≠ [] := by
  rw [lowerChar]
  split
  · simp
  · split <;> simp

/-- **Lower case makes no marks.** -/
theorem lowerChar_isMark (hc : isMark c = false) (hd : d ∈ lowerChar c) : isMark d = false := by
  unfold lowerChar at hd
  split at hd
  · simp only [List.mem_cons, List.not_mem_nil, or_false] at hd
    -- the letter i, and the dot above it
    rcases hd with rfl | rfl <;> decide
  · split at hd
    · next run hrun =>
      obtain rfl := List.mem_singleton.1 hd
      have hcovers := List.find?_some hrun
      simp only [CaseShift.covers, Bool.and_eq_true, decide_eq_true_eq] at hcovers
      -- a shift that leads to no character leads to the null character
      rcases toNat_ofNat (c.toNat + run.shift).toNat with hpoint | hnull
      · simp only [isMark, Ranges.contains, hpoint, List.any_eq_false]
        intro range hrange
        have havoids := shifts_avoid_marks run (List.mem_of_find?_eq_some hrun) range hrange
        simp only [Bool.and_eq_true, decide_eq_true_eq]
        omega
      · rw [isMark, hnull]
        decide
    · rwa [List.mem_singleton.1 hd]

theorem lowerFrom_cons (before rest : List Char) (hc : isMark c = false) :
    ∃ d rest', lowerFrom before (c :: rest) = d :: rest' ∧ isMark d = false := by
  rw [lowerFrom]
  split
  -- a sigma becomes one of the two small ones
  · split
    · exact ⟨_, _, rfl, by decide⟩
    · exact ⟨_, _, rfl, by decide⟩
  · cases hlower : lowerChar c with
    | nil => exact absurd hlower (lowerChar_ne_nil c)
    | cons d ds =>
      exact ⟨d, _, rfl, lowerChar_isMark hc (hlower ▸ List.mem_cons_self)⟩

/-! ## Blanks -/

/-- No mark is a capital. -/
theorem marks_avoid_shifts : ∀ run ∈ shifts, ∀ range ∈ markRanges,
    run.last < range.1 ∨ range.2 < run.first := by
  decide +kernel

/-- A mark is its own lower case. -/
theorem lowerChar_of_isMark (hc : isMark c = true) : lowerChar c = [c] := by
  have hdotted : c ≠ dottedCapitalI := by
    rintro rfl
    exact absurd hc (by decide)
  have hnone : shifts.find? (·.covers c.toNat) = none := by
    refine List.find?_eq_none.2 fun run hrun hcovers => ?_
    obtain ⟨range, hrange, hin⟩ := List.any_eq_true.1 hc
    have havoids := marks_avoid_shifts run hrun range hrange
    simp only [CaseShift.covers, Bool.and_eq_true, decide_eq_true_eq] at hcovers hin
    omega
  rw [lowerChar, if_neg hdotted, hnone]

theorem isMark_of_isBlank (hc : isBlank c = true) : isMark c = true := by
  by_contra hmark
  simp [(isMark_eq_false_iff.1 (Bool.not_eq_true _ ▸ hmark)).2] at hc

/-- A blank at the beginning stays there. -/
theorem lowerFrom_cons_of_isBlank (before rest : List Char) (hc : isBlank c = true) :
    lowerFrom before (c :: rest) = c :: lowerFrom (c :: before) rest := by
  have hsigma : c ≠ capitalSigma := by
    rintro rfl
    exact absurd hc (by decide)
  rw [lowerFrom, if_neg hsigma, lowerChar_of_isMark (isMark_of_isBlank hc)]
  rfl

/-- Lower case makes no blanks. -/
theorem isBlank_of_mem_lowerChar (hc : isBlank c = false) (hd : d ∈ lowerChar c) :
    isBlank d = false := by
  cases hmark : isMark c with
  | false => exact (isMark_eq_false_iff.1 (lowerChar_isMark hmark hd)).2
  | true =>
    rw [lowerChar_of_isMark hmark] at hd
    rwa [List.mem_singleton.1 hd]

/-- What becomes of the first character: something, and no blank unless it is one. -/
theorem lowerFrom_cons_eq_append (before : List Char) (c : Char) (rest : List Char) :
    ∃ ds, ds ≠ [] ∧ (isBlank c = false → ∀ d ∈ ds, isBlank d = false) ∧
      lowerFrom before (c :: rest) = ds ++ lowerFrom (c :: before) rest := by
  refine ⟨_, ?_, ?_, rfl⟩
  · split
    · simp
    · exact lowerChar_ne_nil c
  · intro hc d hd
    split at hd
    · rw [List.mem_singleton.1 hd]
      split <;> decide
    · exact isBlank_of_mem_lowerChar hc hd

theorem lowerFrom_eq_nil_iff {before cs : List Char} : lowerFrom before cs = [] ↔ cs = [] := by
  cases cs with
  | nil => simp [lowerFrom]
  | cons c rest =>
    obtain ⟨ds, hds, -, heq⟩ := lowerFrom_cons_eq_append before c rest
    simp [heq, hds]

/-- What does not end in a blank does not do so in lower case. -/
theorem isBlank_of_getLast?_lowerFrom {before cs : List Char}
    (hcs : ∀ c, cs.getLast? = some c → isBlank c = false)
    (hd : (lowerFrom before cs).getLast? = some d) : isBlank d = false := by
  induction cs generalizing before with
  | nil => simp [lowerFrom] at hd
  | cons c rest ih =>
    obtain ⟨ds, -, hds, heq⟩ := lowerFrom_cons_eq_append before c rest
    cases rest with
    | nil =>
      -- the last character is one of those that the last one became
      rw [heq, lowerFrom, List.append_nil] at hd
      exact hds (hcs c rfl) d (List.mem_of_getLast? hd)
    | cons c' rest =>
      have hne : lowerFrom (c :: before) (c' :: rest) ≠ [] := by simp [lowerFrom_eq_nil_iff]
      rw [heq, List.getLast?_append_of_ne_nil _ hne] at hd
      exact ih (fun c hc => hcs c (by rwa [List.getLast?_cons_cons])) hd

/-! ## Small letters -/

/-- Whether a character is no capital. -/
def isSmall (c : Char) : Bool :=
  c != dottedCapitalI && shifts.all fun run => !run.covers c.toNat

/-- Whether the small letters of a run are no capitals of another one: the two are apart, or every
other letter that they have in common is small. -/
def CaseShift.isApart (run other : CaseShift) : Bool :=
  Nat.blt (run.last + run.shift).toNat other.first ||
    Nat.blt other.last (run.first + run.shift).toNat ||
    other.stride == 2 && (run.stride == 2 || run.first == run.last) &&
      ((run.first + run.shift).toNat + other.first) % 2 == 1

theorem shifts_isApart : (shifts.all fun run => shifts.all run.isApart) = true := by
  decide +kernel

theorem CaseShift.covers_shifted {run other : CaseShift} {point : Nat}
    (hnonneg : 0 ≤ run.first + run.shift) (hapart : run.isApart other = true)
    (hcovers : run.covers point = true) : other.covers (point + run.shift).toNat = false := by
  simp only [isApart, Bool.or_eq_true, Bool.and_eq_true, Nat.blt_eq, beq_iff_eq] at hapart
  simp only [covers, Bool.and_eq_true, decide_eq_true_eq, beq_iff_eq] at hcovers
  rw [Bool.eq_false_iff]
  intro hother
  simp only [covers, Bool.and_eq_true, decide_eq_true_eq, beq_iff_eq] at hother
  rcases hapart with (hbefore | hbehind) | ⟨⟨htwo, hone⟩, hodd⟩
  · omega
  · omega
  -- the letter is an odd number of letters away from a capital of the other run
  · rw [htwo] at hother
    rcases hone with hone | hone
    · rw [hone] at hcovers
      omega
    · omega

/-- The dotted capital is not a small letter either. -/
theorem shifts_avoid_dottedCapitalI : ∀ run ∈ shifts, 0 ≤ run.first + run.shift ∧
    (run.last + run.shift < dottedCapitalI.toNat ∨
      dottedCapitalI.toNat < run.first + run.shift) := by
  decide +kernel

theorem isSmall_iff : isSmall c = true ↔
    c ≠ dottedCapitalI ∧ ∀ run ∈ shifts, run.covers c.toNat = false := by
  simp [isSmall]

theorem lowerChar_of_isSmall (hc : isSmall c = true) : lowerChar c = [c] := by
  obtain ⟨hdotted, hruns⟩ := isSmall_iff.1 hc
  have hnone : shifts.find? (·.covers c.toNat) = none :=
    List.find?_eq_none.2 fun run hrun => by simp [hruns run hrun]
  rw [lowerChar, if_neg hdotted, hnone]

/-- **Lower case makes no capitals.** -/
theorem isSmall_of_mem_lowerChar (hd : d ∈ lowerChar c) : isSmall d = true := by
  unfold lowerChar at hd
  split at hd
  · simp only [List.mem_cons, List.not_mem_nil, or_false] at hd
    -- the letter i, and the dot above it
    rcases hd with rfl | rfl <;> decide +kernel
  · next hdotted =>
    split at hd
    · next run hrun =>
      obtain rfl := List.mem_singleton.1 hd
      have hmem := List.mem_of_find?_eq_some hrun
      have hcovers := List.find?_some hrun
      obtain ⟨hnonneg, hdot⟩ := shifts_avoid_dottedCapitalI run hmem
      -- a shift that leads to no character leads to the null character
      rcases toNat_ofNat (c.toNat + run.shift).toNat with hpoint | hnull
      · refine isSmall_iff.2 ⟨fun heq => ?_, fun other hother => ?_⟩
        · simp only [CaseShift.covers, Bool.and_eq_true, decide_eq_true_eq] at hcovers
          rw [heq] at hpoint
          omega
        · have hruns := List.all_eq_true.1 shifts_isApart run hmem
          have hapart := List.all_eq_true.1 hruns other hother
          rw [hpoint, CaseShift.covers_shifted hnonneg hapart hcovers]
      · rw [Char.toNat_inj (d := Char.ofNat 0) |>.1 (hnull.trans (by decide))]
        decide +kernel
    · next hnone =>
      obtain rfl := List.mem_singleton.1 hd
      refine isSmall_iff.2 ⟨hdotted, fun run hrun => ?_⟩
      simpa using List.find?_eq_none.1 hnone run hrun

theorem isSmall_of_mem_lowerFrom {before cs : List Char} (hd : d ∈ lowerFrom before cs) :
    isSmall d = true := by
  induction cs generalizing before with
  | nil => cases hd
  | cons c rest ih =>
    rw [lowerFrom, List.mem_append] at hd
    rcases hd with hd | hd
    · split at hd
      -- a sigma becomes one of the two small ones
      · rw [List.mem_singleton.1 hd]
        split <;> decide +kernel
      · exact isSmall_of_mem_lowerChar hd
    · exact ih hd

theorem ne_capitalSigma_of_isSmall (hc : isSmall c = true) : c ≠ capitalSigma := by
  rintro rfl
  exact absurd hc (by decide +kernel)

theorem lowerFrom_of_isSmall {before cs : List Char} (h : ∀ c ∈ cs, isSmall c = true) :
    lowerFrom before cs = cs := by
  induction cs generalizing before with
  | nil => rfl
  | cons c rest ih =>
    obtain ⟨hc, hrest⟩ := List.forall_mem_cons.1 h
    rw [lowerFrom, if_neg (ne_capitalSigma_of_isSmall hc), lowerChar_of_isSmall hc, ih hrest]
    rfl

/-- **Lower case is idempotent**, whatever precedes the text either time. -/
theorem lowerFrom_lowerFrom (before before' cs : List Char) :
    lowerFrom before' (lowerFrom before cs) = lowerFrom before cs :=
  lowerFrom_of_isSmall fun _ hd => isSmall_of_mem_lowerFrom hd

/-- Lower case keeps a text without blanks around it so. -/
theorem trimmed_lowerFrom {cs : List Char} (before : List Char) (h : trimmed cs = cs) :
    trimmed (lowerFrom before cs) = lowerFrom before cs := by
  refine trimmed_eq_self (fun d hd => ?_) fun d hd => ?_
  · cases cs with
    | nil => cases hd
    | cons c rest =>
      obtain ⟨ds, hne, hds, heq⟩ := lowerFrom_cons_eq_append before c rest
      rw [heq, List.head?_append_of_ne_nil _ hne] at hd
      exact hds (isBlank_of_trimmed_eq_cons h) d (List.mem_of_head? hd)
  · refine isBlank_of_getLast?_lowerFrom (fun c hc => ?_) hd
    rw [← h] at hc
    exact isBlank_of_getLast?_trimmed hc

end ProposalGate.Text
