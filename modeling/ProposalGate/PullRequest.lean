/-!
# Pull requests

What is known of the pull request under review, the comments on it, and the merge that is asked
for.
-/

namespace ProposalGate

/-- Where a pull request stands. -/
inductive PullState where
  /-- it can be merged -/
  | opened
  /-- it was closed without a merge -/
  | closed
  /-- it was merged -/
  | merged
  deriving DecidableEq, Repr

/-- The name of a state. -/
def PullState.name : PullState → String
  | .opened => "open"
  | .closed => "closed"
  | .merged => "merged"

/-- A pull request. -/
structure PullRequest where
  /-- its number -/
  number : Nat
  /-- its title -/
  title : String
  /-- where it stands -/
  state : PullState
  /-- the login of its author -/
  author : String
  /-- the commit it starts from -/
  baseCommit : String
  /-- the commit it leads to -/
  headCommit : String
  deriving DecidableEq, Repr

/-- A comment on a pull request. -/
structure Comment where
  /-- its number -/
  id : Nat
  /-- its text -/
  body : String
  /-- the login of its author -/
  author : Option String
  deriving DecidableEq, Repr

/-- A squash merge that is asked for. -/
structure MergeRequest where
  /-- the head commit the merge is bound to -/
  commit : String
  /-- the title of the merge commit -/
  title : String
  /-- the message of the merge commit -/
  message : String
  deriving DecidableEq, Repr

/-- What became of a merge. -/
structure MergeResult where
  /-- whether the pull request was merged -/
  merged : Bool
  /-- the merge commit -/
  commit : Option String
  /-- what the forge says about it -/
  message : Option String
  deriving DecidableEq, Repr

end ProposalGate
