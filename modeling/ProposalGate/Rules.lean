import ProposalGate.Change
import ProposalGate.Violation

/-!
# The rules for one file

A file whose name carries no number, and a new file, are refused before anything is read. For any
other file the numbering rule and the status rule are both checked, and everything that fails is
kept. An accepted proposal has the numbers, the status and the name of head, and the authors of
base: nobody becomes an author by the change under review.
-/

namespace ProposalGate

/-- What the rules say of one file. -/
structure Verdict where
  /-- the proposal, if it is accepted -/
  proposal : Option Proposal
  /-- everything that failed -/
  violations : List Violation
  deriving DecidableEq, Repr

/-- A file refused for the given reasons. -/
def Verdict.refused (violations : List Violation) : Verdict :=
  ⟨none, violations⟩

namespace Rules

/-- What is wrong with a change before anything is read. -/
def refusal? (c : Change) : Option Violation :=
  if (Policy.filenameNumber? c.path).isNone then some (.invalidFilename c.path)
  else if c.status = .added then some (.newFileRequiresReview c.path)
  else none

/-- The numbering rule: header and file name agree, and the number is the one the proposal had,
in its header or in its file name. -/
def numbering (path : String) (base head : Proposal) : List Violation :=
  if head.filenameNumber ≠ head.headerNumber then
    [.headerFilenameMismatch path head.filenameNumber head.headerNumber]
  else if base.headerNumber = head.headerNumber ∨ base.filenameNumber = head.headerNumber then []
  else [.proposalNumberChanged path base.headerNumber head.headerNumber]

/-- The status rule: the status stays what it was, and is one in which a proposal may be edited. -/
def status (path : String) (base head : Proposal) : List Violation :=
  if head.status ≠ base.status then [.illegalStatusChange path base.status head.status]
  else if base.status.any Policy.isEditable then []
  else [.statusNotEditable path base.status]

/-- The proposal that is accepted: head, with the authors of base. -/
def accepted (base head : Proposal) : Proposal :=
  { head with authors := base.authors }

/-- What the rules say of a change from `base` to `head`. -/
def judge (c : Change) (base head : Proposal) : Verdict :=
  match refusal? c with
  | some violation => .refused [violation]
  | none =>
    let violations := numbering c.path base head ++ status c.path base head
    if violations.isEmpty then ⟨some (accepted base head), []⟩ else .refused violations

end Rules

end ProposalGate
