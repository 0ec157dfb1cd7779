import ProposalGate.Decimal.Binary64

/-!
# Reading decimal fractions

The grammar is a sign, digits with at most one decimal point among or around them, at least one
digit in all, and an optional exponent. No blanks, no underscores, no names of special values.
-/

namespace ProposalGate.Decimal

/-- Whether a character is an ASCII digit. -/
def isDigit (c : Char) : Bool :=
  '0' ≤ c && c ≤ '9'

/-- The number that a possibly empty run of digits denotes. -/
def digitsValue (cs : List Char) : Nat :=
  cs.foldl (fun n c => n * 10 + (c.toNat - '0'.toNat)) 0

/-- Splits off a leading sign; `true` is minus. -/
def takeSign : List Char → Bool × List Char
  | '-' :: cs => (true, cs)
  | '+' :: cs => (false, cs)
  | cs => (false, cs)

/-- The exponent part: nothing, or the letter, an optional sign and at least one digit. -/
def exponent? : List Char → Option Int
  | [] => some 0
  | c :: cs =>
    if c = 'e' ∨ c = 'E' then
      let (negative, ds) := takeSign cs
      if ds.isEmpty || !ds.all isDigit then none
      else some (if negative then -(digitsValue ds : Int) else digitsValue ds)
    else none

/-- The number a decimal fraction denotes. -/
def fraction? (cs : List Char) : Option Binary64 :=
  let (negative, cs) := takeSign cs
  let whole := cs.takeWhile isDigit
  let (part, tail) :=
    match cs.dropWhile isDigit with
    | '.' :: rest => (rest.takeWhile isDigit, rest.dropWhile isDigit)
    | rest => ([], rest)
  if whole.isEmpty && part.isEmpty then none
  else
    match exponent? tail with
    | none => none
    | some e =>
      some (Binary64.ofDecimal negative (digitsValue (whole ++ part)) (e - (part.length : Int)))

end ProposalGate.Decimal
