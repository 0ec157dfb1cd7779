import ProposalGate.Authorship
import ProposalGate.Decision
import ProposalGate.Retrieval

/-!
# A run

A run loads the pull request, compares its commits, judges every changed file and collects the
approvals, the last two at the same time. A pull request that cannot be loaded, compared or merged
ends the run with an error. A file never does: whatever goes wrong with it is in its report. A run
only reads.
-/

namespace ProposalGate

/-- What a run comes to. -/
structure Run where
  /-- the pull request as it was loaded -/
  pr : PullRequest
  /-- the decision -/
  decision : Decision
  deriving DecidableEq, Repr

namespace Engine

open Forge (Program Reply)

/-- The report on one changed file of a pull request. Only the head version's header counts; its
author list is not even looked up. -/
def report (pr : PullRequest) (c : Change) : Program Report :=
  match Rules.refusal? c with
  | some violation => pure ⟨c.path, .refused [violation]⟩
  | none => do
    match ← Retrieval.versions c pr.baseCommit pr.headCommit with
    | .ok (base, head) =>
      let base ← Authorship.proposalOf base
      return ⟨c.path, Rules.judge c base (Proposal.ofVersion head Roster.empty)⟩
    | .error violations => return ⟨c.path, .refused violations⟩

/-- The reviews of a reply; a listing that failed counts as empty, because fewer approvals can only
keep a pull request from being merged. -/
def reviewsOf {number : Nat} (reply : Reply (.reviews number)) : List Review :=
  match reply with
  | .ok reviews => reviews
  | .error _ => []

/-- The approvers of a pull request. -/
def approversOf (pr : PullRequest) : Program Roster := do
  let reply ← Program.call (.reviews pr.number)
  return approvers pr.author (reviewsOf reply)

/-- Why a pull request in some state cannot be merged. -/
def stateError? (number : Nat) : PullState → Option Error
  | .opened => none
  | .merged => some (.alreadyMerged number)
  | .closed => some (.notMergeable number "PR is closed")

/-- Judges the changed files of a pull request, at most `concurrency` but at least one at the same
time. -/
def decide (pr : PullRequest) (changes : List Change) (concurrency : Nat) : Program Decision := do
  let (reports, approvers) ←
    Program.pair (Program.forAll (max concurrency 1) changes (report pr)) (approversOf pr)
  return Decision.ofReports reports approvers

/-- Runs the bot for one pull request. -/
def run (number concurrency : Nat) : Program (Except Error Run) := do
  match ← Program.call (.pullRequest number) with
  | .error e => return .error e
  | .ok pr =>
    match stateError? number pr.state with
    | some e => return .error e
    | none =>
      match ← Program.call (.compare pr.baseCommit pr.headCommit) with
      | .error e => return .error e
      | .ok changes =>
        let decision ← decide pr changes concurrency
        return .ok ⟨pr, decision⟩

end Engine

end ProposalGate
