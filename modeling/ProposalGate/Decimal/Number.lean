import ProposalGate.Decimal.Binary64

/-!
# Numbers in data

A number in a document is a natural number, a negative integer or a binary fraction. The three
are different kinds: a fraction is no integer, even if it has no fractional part.
-/

namespace ProposalGate.Decimal

/-- A number. -/
inductive Number where
  /-- a natural number -/
  | natural (n : Nat)
  /-- the negative integer `-n` -/
  | negative (n : Nat)
  /-- a binary fraction -/
  | fraction (x : Binary64)
  deriving DecidableEq, Repr

/-- Whether two numbers are one key. -/
def Number.same : Number → Number → Bool
  | .natural m, .natural n => m == n
  | .negative m, .negative n => m == n
  | .fraction x, .fraction y => x.same y
  | _, _ => false

end ProposalGate.Decimal
