import ProposalGate.Decimal.Binary64

/-!
# The shortest decimal that reads back

A finite binary number is printed with the fewest digits that still read back as that number, and
among those with the digits nearest to it. The decimals that read back form an interval around
the number, whose ends belong to it exactly if the mantissa is even. For one digit, two digits
and so on, the number's two neighbours on that decimal grid are tested in exact arithmetic; the
first grid with a hit gives the answer.
-/

namespace ProposalGate.Decimal

/-- The decimal `digits * 10 ^ exponent`. -/
structure Significant where
  /-- the significant digits, read as a number -/
  digits : Nat
  /-- the place of the last digit -/
  exponent : Int
  deriving DecidableEq, Repr

/-- The quotients `low / den`, `value / den` and `high / den`: a number and the ends of the
interval that reads back as it. -/
structure Interval where
  /-- numerator of the lower end -/
  low : Nat
  /-- numerator of the number -/
  value : Nat
  /-- numerator of the upper end -/
  high : Nat
  /-- the common denominator -/
  den : Nat
  /-- whether the ends themselves read back -/
  closed : Bool

/-- The interval of a positive finite number. Just above a power of two the numbers below lie
half as far apart as those above. -/
def Interval.of (mantissa : Nat) (exponent : Int) : Interval :=
  let up := Nat.pow 2 (exponent - 2).toNat
  let below := if mantissa = Nat.pow 2 52 ∧ -1074 < exponent then 1 else 2
  { low := (4 * mantissa - below) * up
    value := 4 * mantissa * up
    high := (4 * mantissa + 2) * up
    den := Nat.pow 2 (2 - exponent).toNat
    closed := mantissa % 2 == 0 }

/-- The decimal exponent `k` of a positive quotient: `10 ^ k ≤ num / den < 10 ^ (k + 1)`. -/
def decimalExponent (num den : Nat) : Int :=
  if den ≤ num then (width (num / den) : Int) - 1
  else
    let d := width (den / num)
    if den ≤ num * Nat.pow 10 (d - 1) then -((d : Int) - 1) else -(d : Int)

/-- The two neighbours of the interval's number on the grid of multiples of `10 ^ exponent`, or
the one of them that lies in the interval; the nearer of two, and of two equally near the even
one. -/
def Interval.onGrid? (i : Interval) (exponent : Int) : Option Significant :=
  let up := Nat.pow 10 exponent.toNat
  let down := Nat.pow 10 (-exponent).toNat
  let unit := i.den * up
  let floor := i.value * down / unit
  let inside (n : Nat) : Bool :=
    let point := n * unit
    if i.closed then i.low * down ≤ point && point ≤ i.high * down
    else i.low * down < point && point < i.high * down
  let lower := 0 < floor && inside floor
  let upper := inside (floor + 1)
  let twiceRest := 2 * (i.value * down % unit)
  if lower && upper then
    if twiceRest < unit ∨ (twiceRest = unit ∧ floor % 2 = 0) then some ⟨floor, exponent⟩
    else some ⟨floor + 1, exponent⟩
  else if lower then some ⟨floor, exponent⟩
  else if upper then some ⟨floor + 1, exponent⟩
  else none

/-- The first grid with a hit, from `digits` digits on. Seventeen digits always suffice. -/
def Interval.search (i : Interval) (leading : Int) : Nat → Nat → Significant
  | 0, _ => ⟨0, 0⟩
  | fuel + 1, digits =>
    match i.onGrid? (leading + 1 - (digits : Int)) with
    | some s => s
    | none => i.search leading fuel (digits + 1)

/-- The digits of a positive finite number: the fewest that read back as it. -/
def shortest (mantissa : Nat) (exponent : Int) : Significant :=
  let i := Interval.of mantissa exponent
  i.search (decimalExponent i.value i.den) 17 1

/-- A decimal without trailing zeros among its digits. -/
def Significant.normal (s : Significant) : Nat → Significant
  | 0 => s
  | fuel + 1 =>
    if s.digits ≠ 0 ∧ s.digits % 10 = 0 then
      Significant.normal ⟨s.digits / 10, s.exponent + 1⟩ fuel
    else s

/-! ## Layout -/

/-- Where the positional form of a number ends and the exponential form begins. The place of a
number is the number of digits before its decimal point, negative if zeros follow the point. -/
structure Layout where
  /-- the largest place written positionally, if there is one -/
  most : Option Int
  /-- the smallest place written positionally, if there is one -/
  least : Option Int

/-- A run of zeros. -/
def zeros (n : Nat) : String :=
  String.ofList (List.replicate n '0')

/-- Digits with the decimal point after the first `place` of them; a whole number ends in a point
and a zero. -/
def positional (digits : String) (place : Int) : String :=
  let count : Int := digits.length
  if place ≤ 0 then "0." ++ zeros (-place).toNat ++ digits
  else if count ≤ place then digits ++ zeros (place - count).toNat ++ ".0"
  else
    String.ofList (digits.toList.take place.toNat) ++ "."
      ++ String.ofList (digits.toList.drop place.toNat)

/-- One digit before the point, the others behind it, and the exponent. -/
def exponential (digits : String) (place : Int) : String :=
  match digits.toList with
  | [] => ""
  | [d] => String.ofList [d] ++ "e" ++ toString (place - 1)
  | d :: rest => String.ofList [d] ++ "." ++ String.ofList rest ++ "e" ++ toString (place - 1)

/-- The text of a positive decimal. -/
def Layout.write (layout : Layout) (s : Significant) : String :=
  let s := s.normal 20
  let digits := toString s.digits
  let place := (digits.length : Int) + s.exponent
  if layout.most.all (place ≤ ·) && layout.least.all (· ≤ place) then positional digits place
  else exponential digits place

/-- The text of a finite number: a sign, and the shortest digits that read back. -/
def Layout.writeFinite (layout : Layout) (negative : Bool) (mantissa : Nat) (exponent : Int) :
    String :=
  let sign := if negative then "-" else ""
  if mantissa = 0 then sign ++ "0.0" else sign ++ layout.write (shortest mantissa exponent)

end ProposalGate.Decimal
