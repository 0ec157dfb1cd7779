import ProposalGate.Rules

/-!
# The decision

The reports on the files of a pull request are put in the order of their paths and folded into
findings; to these come the approval gaps, one for each accepted proposal that no author approves.
Without any violation the accepted proposals are merged. With violations there is something to
say if at least one proposal was accepted, and nothing if none was.
-/

namespace ProposalGate

/-- What the rules say of the file with a path. -/
structure Report where
  /-- the path at head -/
  path : String
  /-- the verdict -/
  verdict : Verdict
  deriving DecidableEq, Repr

/-- Everything that was found. -/
structure Findings where
  /-- the accepted proposals -/
  accepted : List Proposal
  /-- the violations -/
  violations : List Violation
  deriving DecidableEq, Repr

/-- What becomes of a pull request. -/
inductive Outcome where
  /-- it is merged; the numbers of its proposals -/
  | merge (numbers : List Nat)
  /-- the violations are reported -/
  | comment (violations : List Violation)
  /-- it is left alone -/
  | nothing
  deriving DecidableEq, Repr

/-- An outcome in a few words. -/
def Outcome.text : Outcome → String
  | .merge numbers => "merge (" ++ ", ".intercalate (numbers.map Proposal.numberText) ++ ")"
  | .comment violations => s!"comment ({violations.length} issue(s))"
  | .nothing => "no-op"

/-- What was found and what becomes of it. -/
structure Decision where
  /-- the findings, approval gaps included -/
  findings : Findings
  /-- what becomes of the pull request -/
  outcome : Outcome
  deriving DecidableEq, Repr

namespace Report

/-- Reports in the order of their paths; reports of one path keep their order. -/
def ordered (reports : List Report) : List Report :=
  reports.mergeSort fun a b => decide (a.path ≤ b.path)

end Report

namespace Findings

/-- What some reports amount to, taken in the order of their paths. -/
def ofReports (reports : List Report) : Findings :=
  { accepted := (Report.ordered reports).filterMap (·.verdict.proposal)
    violations := (Report.ordered reports).flatMap (·.verdict.violations) }

/-- The findings with more violations behind the others. -/
def add (f : Findings) (violations : List Violation) : Findings :=
  { f with violations := f.violations ++ violations }

end Findings

namespace Proposal

/-- Whether a proposal's number does not come after another's; no number comes first. -/
def numberNotAfter (p q : Proposal) : Bool :=
  match p.number?, q.number? with
  | none, _ => true
  | some _, none => false
  | some m, some n => m ≤ n

/-- What is missing if no author of a proposal approves. -/
def gap? (approvers : Roster) (p : Proposal) : Option Violation :=
  let number := p.number?.getD 0
  if p.authors.isEmpty then some (.noIdentifiableAuthors number)
  else if p.authors.meets approvers then none
  else some (.missingAuthorApproval number p.authors.members)

/-- The approval gaps of some proposals, in the order of their numbers. -/
def gaps (proposals : List Proposal) (approvers : Roster) : List Violation :=
  (proposals.mergeSort numberNotAfter).filterMap (gap? approvers)

/-- The numbers of some proposals, ascending and each once. -/
def numbers (proposals : List Proposal) : List Nat :=
  Ascending.ofList (· < ·) (proposals.filterMap number?)

end Proposal

/-- What becomes of a pull request with these findings. -/
def Outcome.ofFindings (f : Findings) : Outcome :=
  if f.violations.isEmpty then .merge (Proposal.numbers f.accepted)
  else if f.accepted.isEmpty then .nothing
  else .comment f.violations

/-- The decision with these findings. -/
def Decision.ofFindings (f : Findings) : Decision :=
  ⟨f, .ofFindings f⟩

/-- The decision on some reports, given the approvers. -/
def Decision.ofReports (reports : List Report) (approvers : Roster) : Decision :=
  let found := Findings.ofReports reports
  .ofFindings (found.add (Proposal.gaps found.accepted approvers))

end ProposalGate
