import ProposalGate.Change
import ProposalGate.Error
import ProposalGate.PullRequest
import ProposalGate.Review

/-!
# Calls to a forge

Everything that is ever asked of a forge, each call with the type of its answer. A call may fail,
and it may take longer than it may; both are replies like any other.
-/

namespace ProposalGate

/-- The content of a file as a forge gives it. A forge promises none of these. -/
structure FileContent where
  /-- the content in its encoding -/
  content : Option String
  /-- the name of the encoding -/
  encoding : Option String
  /-- the path of the file -/
  path : Option String
  /-- the name of the file -/
  name : Option String
  deriving DecidableEq, Repr

namespace Forge

/-- A call to a forge. -/
inductive Call where
  /-- a pull request -/
  | pullRequest (number : Nat)
  /-- the files that differ between two commits -/
  | compare (base head : String)
  /-- the content of a file at a commit, if it is there -/
  | file (path commit : String)
  /-- the logins that a search of the user directory finds, best first -/
  | users (query : String)
  /-- the reviews of a pull request -/
  | reviews (number : Nat)
  /-- a request for reviews -/
  | requestReviewers (number : Nat) (logins : List String)
  /-- the comments on a pull request -/
  | comments (number : Nat)
  /-- a new comment on a pull request -/
  | createComment (number : Nat) (body : String)
  /-- a new text for a comment -/
  | updateComment (number id : Nat) (body : String)
  /-- a merge -/
  | merge (number : Nat) (request : MergeRequest)
  /-- the login of the bot -/
  | currentUser
  deriving DecidableEq, Repr

/-- What a call is answered with. -/
@[reducible] def Call.Answer : Call → Type
  | .pullRequest _ => PullRequest
  | .compare .. => List Change
  | .file .. => Option FileContent
  | .users _ => List String
  | .reviews _ => List Review
  | .requestReviewers .. => Unit
  | .comments _ => List Comment
  | .createComment .. => Unit
  | .updateComment .. => Unit
  | .merge .. => MergeResult
  | .currentUser => String

/-- Whether a call changes something on the forge. -/
def Call.isWrite : Call → Bool
  | .requestReviewers .. | .createComment .. | .updateComment .. | .merge .. => true
  | _ => false

/-- The reply to a call: its answer, or the error it failed with. -/
@[reducible] def Reply (c : Call) : Type :=
  Except Error c.Answer

end Forge

/-- A forge whose state is of type `σ`: what it replies to each call in each state, and its state
afterwards. -/
@[reducible] def Forge (σ : Type) : Type :=
  (c : Forge.Call) → σ → Forge.Reply c × σ

end ProposalGate
