/-!
# Natural numbers in a radix

A numeral is a non-empty run of digits. `value?` reads it; numbers that have to fit a fixed width
are read with `below?`, which refuses what does not fit and never wraps around.
-/

namespace ProposalGate.Decimal

/-- One past the largest number of a proposal, a pull request or a comment. -/
def wordLimit : Nat := Nat.pow 2 64

/-- The value of a digit, letters in either case standing for ten and up. -/
def digit? (radix : Nat) (c : Char) : Option Nat :=
  let value :=
    if '0' ≤ c ∧ c ≤ '9' then some (c.toNat - '0'.toNat)
    else if 'a' ≤ c ∧ c ≤ 'z' then some (c.toNat - 'a'.toNat + 10)
    else if 'A' ≤ c ∧ c ≤ 'Z' then some (c.toNat - 'A'.toNat + 10)
    else none
  value.filter (· < radix)

/-- Reads the remaining digits of a numeral whose first digits denote `acc`. -/
def valueFrom? (radix acc : Nat) : List Char → Option Nat
  | [] => some acc
  | c :: rest =>
    match digit? radix c with
    | some d => valueFrom? radix (acc * radix + d) rest
    | none => none

/-- The number a numeral denotes; leading zeros are allowed, an empty text is no numeral. -/
def value? (radix : Nat) (cs : List Char) : Option Nat :=
  if cs.isEmpty then none else valueFrom? radix 0 cs

/-- The number a numeral denotes, if it is below `limit`. -/
def below? (radix limit : Nat) (cs : List Char) : Option Nat :=
  (value? radix cs).filter (· < limit)

/-- The number a decimal numeral with an optional plus sign denotes, if it is below `2 ^ 64`. -/
def word? : List Char → Option Nat
  | '+' :: cs => below? 10 wordLimit cs
  | cs => below? 10 wordLimit cs

/-- The number of decimal digits of a number; zero has one. -/
def width (n : Nat) : Nat :=
  (toString n).length

end ProposalGate.Decimal
