/-!
# Sets of characters given by ranges

A property of characters is a list of closed ranges of code points. Membership is one pass over
the list, so a table is nothing but data and every fact about a property is a fact about numbers.
-/

namespace ProposalGate.Text

/-- Closed ranges of code points, in ascending order. -/
abbrev Ranges := List (Nat × Nat)

/-- Whether a code point lies in one of the ranges. -/
def Ranges.contains (ranges : Ranges) (point : Nat) : Bool :=
  ranges.any fun range => range.1 ≤ point && point ≤ range.2

end ProposalGate.Text
