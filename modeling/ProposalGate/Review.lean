import ProposalGate.Instant
import ProposalGate.Roster

/-!
# Reviews and approvers

The approvers of a pull request are its author and everyone whose latest review approves it.
Reviews are ordered by the time they were submitted, those without a time first, and reviews of
one time keep their order. A blank login, left by a deleted account, approves nothing.
-/

namespace ProposalGate

/-- What a review says. -/
inductive ReviewState where
  /-- the change is approved -/
  | approved
  /-- changes are asked for -/
  | changesRequested
  /-- there are only comments -/
  | commented
  /-- the review was dismissed -/
  | dismissed
  /-- the review is not submitted, or its state is not known -/
  | pending
  deriving DecidableEq, Repr

/-- A review of a pull request. -/
structure Review where
  /-- the login of the reviewer -/
  reviewer : String
  /-- what the review says -/
  state : ReviewState
  /-- when it was submitted -/
  submittedAt : Option Instant
  deriving DecidableEq, Repr

namespace Review

/-- Whether a review was not submitted after another. -/
def notAfter (a b : Review) : Bool :=
  match a.submittedAt, b.submittedAt with
  | none, _ => true
  | some _, none => false
  | some s, some t => s.notAfter t

/-- Whether the reviewer's account still has a login. -/
def hasReviewer (r : Review) : Bool :=
  !Text.isBlankText r.reviewer

/-- The identity of the reviewer. -/
def identity (r : Review) : Identity :=
  Identity.ofLogin r.reviewer

/-- The reviews that count, in the order in which they were submitted. -/
def ordered (reviews : List Review) : List Review :=
  (reviews.mergeSort notAfter).filter hasReviewer

/-- What the last of some reviews by one reviewer says. -/
def lastState? (i : Identity) (reviews : List Review) : Option ReviewState :=
  (reviews.reverse.find? (·.identity = i)).map (·.state)

/-- The reviewers whose last review approves. -/
def approving (reviews : List Review) : List Identity :=
  (reviews.map identity).filter fun i => lastState? i reviews = some .approved

end Review

/-- The approvers of a pull request. -/
def approvers (author : String) (reviews : List Review) : Roster :=
  let reviewers := Roster.ofList (Review.approving (Review.ordered reviews))
  if Text.isBlankText author then reviewers else reviewers.insert (Identity.ofLogin author)

end ProposalGate
