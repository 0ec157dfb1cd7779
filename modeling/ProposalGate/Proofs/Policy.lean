import ProposalGate.Policy
import ProposalGate.Proofs.Decimal
import ProposalGate.Proofs.Text.Parts

/-!
# Numbers in file names

A file name carries a number exactly if it is made of one of the two beginnings, a run of ASCII
digits and the ending, with nothing around them, and the digits denote a number below `2 ^ 64`
(`filenameNumber?_grammar`). The value is that of the digits in base ten (`Decimal.denoted`), so
zeros before it do not matter and none wraps around.

The digits may as well be looked for in two steps, first by a pattern whose class of digits is
larger and then by reading a machine word (`digitsIn?`): what the pattern lets through besides ASCII
digits is no number, and a sign is not let through.
-/

namespace ProposalGate

namespace Policy

open Decimal (denoted)

variable {start path : String} {digits : List Char} {n : Nat}

/-! ## File names -/

/-- What stands between a beginning and the ending of a proposal's path. -/
def between? (path start : String) : Option (List Char) :=
  (Text.afterStart? start.toList path.toList).bind (Text.beforeEnd? pathEnd.toList)

/-- What stands where the number of a proposal's path does, if it is all of a class of digits. -/
def digitsIn? (isDigit : Char → Bool) (path : String) : Option (List Char) :=
  pathStarts.findSome? fun start =>
    (between? path start).bind (Option.guard fun digits => !digits.isEmpty && digits.all isDigit)

theorem between?_eq_some_iff :
    between? path start = some digits ↔ path = start ++ String.ofList digits ++ pathEnd := by
  simp [between?, Option.bind_eq_some_iff, Text.afterStart?_eq_some_iff,
    Text.beforeEnd?_eq_some_iff, ← String.toList_inj]

theorem numberAfter?_eq (path start : String) :
    numberAfter? start path.toList =
      (between? path start).bind (Decimal.below? 10 Decimal.wordLimit) :=
  (Option.bind_assoc ..).symm

/-- A path has one of the beginnings at most. -/
theorem start_unique {start' : String} {rest rest' : List Char} (h : start ∈ pathStarts)
    (h' : start' ∈ pathStarts) (heq : start.toList ++ rest = start'.toList ++ rest') :
    start = start' := by
  simp only [pathStarts, List.mem_cons, List.not_mem_nil, or_false] at h h'
  -- the beginnings differ in their first characters
  rcases h with rfl | rfl <;> rcases h' with rfl | rfl
  · rfl
  · simp at heq
  · simp at heq
  · rfl

theorem between?_unique {start' : String} {digits' : List Char} (hstart : start ∈ pathStarts)
    (hstart' : start' ∈ pathStarts) (h : between? path start = some digits)
    (h' : between? path start' = some digits') : digits = digits' := by
  have hpath := congrArg String.toList
    ((between?_eq_some_iff.1 h).symm.trans (between?_eq_some_iff.1 h'))
  simp only [String.toList_append, List.append_assoc] at hpath
  obtain rfl := start_unique hstart hstart' hpath
  exact Option.some.inj (h.symm.trans h')

/-- What is made of the part between is found with whichever beginning the path has. -/
theorem findSome?_pathStarts {α : Type} {f : List Char → Option α} {a : α} :
    pathStarts.findSome? (fun start => (between? path start).bind f) = some a ↔
      ∃ start ∈ pathStarts, ∃ digits, between? path start = some digits ∧ f digits = some a := by
  constructor
  · intro h
    obtain ⟨start, hstart, hfound⟩ := List.exists_of_findSome?_eq_some h
    exact ⟨start, hstart, Option.bind_eq_some_iff.1 hfound⟩
  · rintro ⟨start, hstart, digits, hdigits, ha⟩
    cases hfind : pathStarts.findSome? fun start => (between? path start).bind f with
    | none =>
      have hnone := List.findSome?_eq_none_iff.1 hfind start hstart
      rw [hdigits, Option.bind_some, ha] at hnone
      cases hnone
    | some b =>
      obtain ⟨start', hstart', hfound⟩ := List.exists_of_findSome?_eq_some hfind
      obtain ⟨digits', hdigits', hb⟩ := Option.bind_eq_some_iff.1 hfound
      rw [← between?_unique hstart hstart' hdigits hdigits', ha] at hb
      exact hb.symm

theorem filenameNumber?_eq_some_iff : filenameNumber? path = some n ↔
    ∃ start ∈ pathStarts, ∃ digits, between? path start = some digits ∧
      Decimal.below? 10 Decimal.wordLimit digits = some n := by
  rw [filenameNumber?, ← findSome?_pathStarts]
  simp only [numberAfter?_eq]

theorem digitsIn?_eq_some_iff {isDigit : Char → Bool} : digitsIn? isDigit path = some digits ↔
    digits ≠ [] ∧ (∀ c ∈ digits, isDigit c) ∧
      ∃ start ∈ pathStarts, between? path start = some digits := by
  rw [digitsIn?, findSome?_pathStarts]
  simp only [Option.guard_eq_some_iff, Bool.and_eq_true, Bool.not_eq_true',
    List.isEmpty_eq_false_iff, List.all_eq_true]
  constructor
  · rintro ⟨start, hstart, digits', hbetween, rfl, hne, hdigits⟩
    exact ⟨hne, hdigits, start, hstart, hbetween⟩
  · rintro ⟨hne, hdigits, start, hstart, hbetween⟩
    exact ⟨start, hstart, digits, hbetween, rfl, hne, hdigits⟩

/-- **The number of a path can be read in two steps.** Which further characters count as digits in
the first one does not matter, as long as a sign does not. -/
theorem bind_digitsIn? {isDigit : Char → Bool} (hdigit : ∀ c, c.isDigit → isDigit c)
    (hsign : isDigit '+' = false) (path : String) :
    (digitsIn? isDigit path).bind Decimal.word? = filenameNumber? path := by
  have hword : ∀ digits : List Char, (∀ c ∈ digits, isDigit c) →
      Decimal.word? digits = Decimal.below? 10 Decimal.wordLimit digits := by
    intro digits hdigits
    refine Decimal.word?_eq_below? fun hhead => ?_
    simp [hdigits '+' (List.mem_of_head? hhead)] at hsign
  ext n
  rw [filenameNumber?_eq_some_iff, Option.bind_eq_some_iff]
  simp only [digitsIn?_eq_some_iff]
  constructor
  · rintro ⟨digits, ⟨-, hdigits, start, hstart, hbetween⟩, hn⟩
    exact ⟨start, hstart, digits, hbetween, by rw [← hword digits hdigits, hn]⟩
  · rintro ⟨start, hstart, digits, hbetween, hn⟩
    obtain ⟨hne, hdigits, -, -⟩ := Decimal.below?_ten_eq_some_iff.1 hn
    have hdigits : ∀ c ∈ digits, isDigit c := fun c hc => hdigit c (hdigits c hc)
    exact ⟨digits, ⟨hne, hdigits, start, hstart, hbetween⟩, by rw [hword digits hdigits, hn]⟩

/-- **Which paths carry which number.** -/
theorem filenameNumber?_grammar (path : String) :
    (∀ n, filenameNumber? path = some n ↔
      ∃ start ∈ ["EIPS/eip-", "proposals/p-"], ∃ digits : List Char,
        path = start ++ String.ofList digits ++ ".md" ∧ digits ≠ [] ∧ (∀ c ∈ digits, c.isDigit) ∧
          denoted digits = n ∧ n < 2 ^ 64) ∧
    (filenameNumber? path = none ↔
      ∀ start ∈ ["EIPS/eip-", "proposals/p-"], ∀ digits : List Char,
        path = start ++ String.ofList digits ++ ".md" →
          digits = [] ∨ (∃ c ∈ digits, ¬ c.isDigit) ∨ 2 ^ 64 ≤ denoted digits) ∧
    ∀ isDigit : Char → Bool, (∀ c, c.isDigit → isDigit c) → isDigit '+' = false →
      (digitsIn? isDigit path).bind Decimal.word? = filenameNumber? path := by
  have hiff : ∀ n, filenameNumber? path = some n ↔
      ∃ start ∈ ["EIPS/eip-", "proposals/p-"], ∃ digits : List Char,
        path = start ++ String.ofList digits ++ ".md" ∧ digits ≠ [] ∧ (∀ c ∈ digits, c.isDigit) ∧
          denoted digits = n ∧ n < 2 ^ 64 := by
    intro n
    rw [filenameNumber?_eq_some_iff]
    simp only [between?_eq_some_iff, Decimal.below?_ten_eq_some_iff]
    rfl
  refine ⟨hiff, ?_, fun isDigit hdigit hsign => bind_digitsIn? hdigit hsign path⟩
  rw [Option.eq_none_iff_forall_ne_some]
  simp only [ne_eq, hiff]
  constructor
  · intro h start hstart digits hpath
    by_contra hgood
    simp only [not_or, not_exists, not_and, not_not, not_le] at hgood
    exact h _ ⟨start, hstart, digits, hpath, hgood.1, hgood.2.1, rfl, hgood.2.2⟩
  · rintro h n ⟨start, hstart, digits, hpath, hne, hdigits, rfl, hn⟩
    rcases h start hstart digits hpath with hnil | ⟨c, hc, hcdigit⟩ | hlarge
    · exact hne hnil
    · exact hcdigit (hdigits c hc)
    · exact absurd hn (Nat.not_lt.2 hlarge)

/-- The decimal digits of two scripts. -/
def isDigitOfTwo (c : Char) : Bool :=
  c.isDigit || (Char.ofNat 0x660 ≤ c && c ≤ Char.ofNat 0x669)

/-- Leading zeros are allowed, and digits of another script are let through only to be refused. -/
theorem filenameNumber?_grammar_zeros :
    filenameNumber? "EIPS/eip-0017.md" = some 17 ∧
      digitsIn? isDigitOfTwo "EIPS/eip-1٧.md" = some ['1', '٧'] ∧
      (digitsIn? isDigitOfTwo "EIPS/eip-1٧.md").bind Decimal.word? =
        filenameNumber? "EIPS/eip-1٧.md" ∧
      filenameNumber? "EIPS/eip-1٧.md" = none := by
  have hdigits : ∀ c : Char, c.isDigit → isDigitOfTwo c := fun c hc => by simp [isDigitOfTwo, hc]
  have hsign : isDigitOfTwo '+' = false := by decide
  obtain ⟨hiff, -, -⟩ := filenameNumber?_grammar "EIPS/eip-0017.md"
  obtain ⟨-, -, htwo⟩ := filenameNumber?_grammar "EIPS/eip-1٧.md"
  refine ⟨(hiff 17).2 ⟨"EIPS/eip-", by simp, ['0', '0', '1', '7'], ?_⟩, ?_,
    htwo isDigitOfTwo hdigits hsign, ?_⟩
  · refine ⟨by decide, by simp, by simp, by decide +kernel, by decide⟩
  · decide +kernel
  · decide +kernel

end Policy

end ProposalGate
