import ProposalGate.Decimal.Natural

/-!
# Binary floating-point numbers, exactly

A finite number is a sign, a mantissa below `2 ^ 53` and a binary exponent of at least `-1074`,
so every operation here is arithmetic on natural numbers. A decimal is read as the nearest
number, a tie going to the even mantissa; what is too large becomes infinite.
-/

namespace ProposalGate.Decimal

/-- A number of the 64-bit binary format. A finite one is `mantissa * 2 ^ exponent`. -/
inductive Binary64 where
  /-- not a number -/
  | nan
  /-- beyond the largest finite number -/
  | infinite (negative : Bool)
  /-- a finite number, zeros of both signs included -/
  | finite (negative : Bool) (mantissa : Nat) (exponent : Int)
  deriving DecidableEq, Repr

namespace Binary64

/-- Whether two numbers count as one key: a number that is none equals itself, and the zeros of
the two signs are equal. -/
def same : Binary64 → Binary64 → Bool
  | .nan, .nan => true
  | .infinite a, .infinite b => a == b
  | .finite a m e, .finite b n f => m == n && ((e == f && a == b) || m == 0)
  | _, _ => false

/-- A quotient rounded to the nearest natural number, a tie going to the even one. -/
def roundQuotient (num den : Nat) : Nat :=
  let q := num / den
  let r := 2 * (num % den)
  if r < den then q
  else if den < r then q + 1
  else if q % 2 = 0 then q else q + 1

/-- The binary exponent `e` of a positive quotient: `2 ^ e ≤ num / den < 2 ^ (e + 1)`. -/
def binaryExponent (num den : Nat) : Int :=
  let e : Int := (Nat.log2 num : Int) - (Nat.log2 den : Int)
  let reached :=
    if 0 ≤ e then den * Nat.pow 2 e.toNat ≤ num else den ≤ num * Nat.pow 2 (-e).toNat
  if reached then e else e - 1

/-- The number nearest to `num / den`. -/
def ofQuotient (negative : Bool) (num den : Nat) : Binary64 :=
  if num = 0 then .finite negative 0 (-1074)
  else
    let exponent := max (binaryExponent num den - 52) (-1074)
    let mantissa :=
      if 0 ≤ exponent then roundQuotient num (den * Nat.pow 2 exponent.toNat)
      else roundQuotient (num * Nat.pow 2 (-exponent).toNat) den
    let carried := mantissa == Nat.pow 2 53
    let mantissa := if carried then Nat.pow 2 52 else mantissa
    let exponent := if carried then exponent + 1 else exponent
    if 971 < exponent then .infinite negative else .finite negative mantissa exponent

/-- The number nearest to `significand * 10 ^ exponent`. Magnitudes far outside the format are
settled by the exponent alone, so an exponent of any length is read in bounded time. -/
def ofDecimal (negative : Bool) (significand : Nat) (exponent : Int) : Binary64 :=
  let magnitude := exponent + (width significand : Int)
  if significand = 0 ∨ magnitude < -400 then .finite negative 0 (-1074)
  else if 400 < magnitude then .infinite negative
  else if 0 ≤ exponent then ofQuotient negative (significand * Nat.pow 10 exponent.toNat) 1
  else ofQuotient negative significand (Nat.pow 10 (-exponent).toNat)

end Binary64

end ProposalGate.Decimal
