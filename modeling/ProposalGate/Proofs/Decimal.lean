import Mathlib.Data.Nat.Digits.Defs
import ProposalGate.Decimal.Natural

/-!
# Numerals in base ten

A numeral in base ten is a run of ASCII digits, and it is read as the number that those denote
(`Decimal.below?_ten_eq_some_iff`). Zeros before it do not matter, and what is too large is refused
rather than wrapped around.
-/

namespace ProposalGate

namespace Decimal

variable {c : Char} {cs : List Char} {acc limit n : Nat}

/-- The number that digits denote in base ten, the first digit being the highest. -/
def denoted (digits : List Char) : Nat :=
  Nat.ofDigits 10 (digits.reverse.map fun c => c.toNat - '0'.toNat)

theorem denoted_cons (c : Char) (cs : List Char) :
    denoted (c :: cs) = (c.toNat - '0'.toNat) * 10 ^ cs.length + denoted cs := by
  rw [denoted, List.reverse_cons, List.map_append, Nat.ofDigits_append, List.length_map,
    List.length_reverse, List.map_singleton, Nat.ofDigits_singleton, denoted]
  ring

/-- A digit to the base of ten is an ASCII digit. -/
theorem digit?_ten : digit? 10 c = if c.isDigit then some (c.toNat - '0'.toNat) else none := by
  have hdigit : ('0' ≤ c ∧ c ≤ '9') ↔ c.isDigit = true := Char.isDigit_iff_toNat.symm
  rw [digit?]
  split
  · next h =>
    have hd := Char.isDigit_iff_toNat.1 (hdigit.1 h)
    have h0 : '0'.toNat = 48 := rfl
    have h9 : '9'.toNat = 57 := rfl
    rw [if_pos (hdigit.1 h)]
    simp [Option.filter]
    omega
  · next h =>
    -- the digits that are letters are no digits in base ten
    rw [if_neg (mt hdigit.2 h)]
    split
    · simp
    · split <;> simp

/-- A number is read digit by digit, on top of what was read before. -/
theorem valueFrom?_ten_eq_some_iff : valueFrom? 10 acc cs = some n ↔
    (∀ c ∈ cs, c.isDigit) ∧ acc * 10 ^ cs.length + denoted cs = n := by
  induction cs generalizing acc with
  | nil => simp [valueFrom?, denoted]
  | cons c rest ih =>
    have hvalue : (acc * 10 + (c.toNat - '0'.toNat)) * 10 ^ rest.length + denoted rest =
        acc * 10 ^ (c :: rest).length + denoted (c :: rest) := by
      rw [denoted_cons, List.length_cons]
      ring
    rw [valueFrom?, digit?_ten, List.forall_mem_cons, ← hvalue]
    by_cases hc : c.isDigit
    · simp [hc, ih]
    · simp [hc]

/-- **What is read in base ten**: a run of digits, if the number it denotes is small enough. -/
theorem below?_ten_eq_some_iff : below? 10 limit cs = some n ↔
    cs ≠ [] ∧ (∀ c ∈ cs, c.isDigit) ∧ denoted cs = n ∧ n < limit := by
  rw [below?, Option.filter_eq_some_iff, value?, decide_eq_true_eq]
  cases cs with
  | nil => simp
  | cons c rest => simp [valueFrom?_ten_eq_some_iff, and_assoc]

/-- Where there is no sign, a machine word is read like any number. -/
theorem word?_eq_below? (h : cs.head? ≠ some '+') : word? cs = below? 10 wordLimit cs := by
  rw [word?.eq_def]
  split
  · exact absurd rfl h
  · rfl

end Decimal

end ProposalGate
