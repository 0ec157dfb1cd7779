import ProposalGate.Decimal.Natural
import ProposalGate.Text.Blank

/-!
# The review policy

What a proposal is called in its file name and header, and in which states an author may edit it
without an editor. None of this can be configured: changing it changes what may be merged.
-/

namespace ProposalGate.Policy

/-- The header key of the proposal number. -/
def numberKey : String := "eip"

/-- The header key of the status. -/
def statusKey : String := "status"

/-- The header key of the author list. -/
def authorKey : String := "author"

/-- The header key of the title. -/
def titleKey : String := "title"

/-- The states in which a proposal may be edited without an editor. -/
def editableStatuses : List String := ["draft", "review", "last call"]

/-- There are three such states. -/
theorem mem_editableStatuses_iff {status : String} :
    status ∈ editableStatuses ↔ status = "draft" ∨ status = "review" ∨ status = "last call" := by
  simp [editableStatuses]

/-- Whether a status, in lower case, is one in which a proposal may be edited. -/
def isEditable (status : String) : Bool :=
  editableStatuses.contains status

/-- What the path of a proposal begins with, in its two forms. -/
def pathStarts : List String := ["EIPS/eip-", "proposals/p-"]

/-- What the path of a proposal ends with. -/
def pathEnd : String := ".md"

/-- The number between a given start of a path and its end. -/
def numberAfter? (start : String) (path : List Char) : Option Nat := do
  let rest ← Text.afterStart? start.toList path
  let digits ← Text.beforeEnd? pathEnd.toList rest
  Decimal.below? 10 Decimal.wordLimit digits

/-- The number a proposal's path carries; leading zeros are allowed, a number of `2 ^ 64` or more
is none. -/
def filenameNumber? (path : String) : Option Nat :=
  pathStarts.findSome? (numberAfter? · path.toList)

end ProposalGate.Policy
