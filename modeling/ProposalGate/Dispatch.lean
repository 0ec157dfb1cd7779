import ProposalGate.Forge.Program
import ProposalGate.Notice

/-!
# Carrying a decision out

A merge is one call, bound to the head commit that was judged. A comment is the one the bot already
has, brought up to date, or a new one; then the missing authors are asked for a review, and if
that fails nothing else is undone. Nothing is nothing.
-/

namespace ProposalGate

/-- What became of the bot's comment. -/
inductive CommentAction where
  /-- it is new -/
  | created
  /-- it has a new text -/
  | updated
  /-- it said this already -/
  | unchanged
  deriving DecidableEq, Repr

/-- What was done. -/
inductive Dispatch where
  /-- the pull request was merged; the merge commit -/
  | merged (commit : Option String)
  /-- the violations were reported; the logins that were asked for a review -/
  | commented (action : CommentAction) (reviewers : List String)
  /-- nothing was done -/
  | nothing
  deriving DecidableEq, Repr

namespace Dispatch

open Forge (Program Reply)

/-- What a reply to a write amounts to, if all that counts is whether it succeeded. -/
def confirm {α β : Type} (result : β) : Except Error α → Except Error β
  | .ok _ => .ok result
  | .error e => .error e

/-- Brings the bot's comment up to date, or posts it. -/
def upsert (number : Nat) (body : String) : Program (Except Error CommentAction) := do
  let (bot, comments) ← Program.pair (Program.call .currentUser) (Program.call (.comments number))
  match bot, comments with
  | .error e, _ => return .error e
  | .ok _, .error e => return .error e
  | .ok bot, .ok comments =>
    match Notice.find? comments bot with
    | some existing =>
      if existing.body = body then return .ok .unchanged
      else
        let reply ← Program.call (.updateComment number existing.id body)
        return confirm .updated reply
    | none =>
      let reply ← Program.call (.createComment number body)
      return confirm .created reply

/-- Asks for reviews, if there is anyone to ask; the logins that were asked. -/
def requestReviews (number : Nat) (logins : List String) : Program (List String) :=
  if logins.isEmpty then pure []
  else do
    match ← Program.call (.requestReviewers number logins) with
    | .ok _ => return logins
    | .error _ => return []

/-- What a reply to a merge amounts to. -/
def ofMerge (number : Nat) : Except Error MergeResult → Except Error Dispatch
  | .error e => .error e
  | .ok result =>
    if result.merged then .ok (.merged result.commit)
    else .error (.notMergeable number (result.message.getD "merge was rejected"))

/-- Carries an outcome out. -/
def perform (pr : PullRequest) : Outcome → Program (Except Error Dispatch)
  | .merge proposals => do
    let reply ← Program.call (.merge pr.number (Notice.mergeRequest pr proposals))
    return ofMerge pr.number reply
  | .comment violations => do
    match ← upsert pr.number (Notice.body violations) with
    | .error e => return .error e
    | .ok action =>
      let asked ← requestReviews pr.number (Notice.reviewers violations pr.author)
      return .ok (.commented action asked)
  | .nothing => pure (.ok .nothing)

end Dispatch

end ProposalGate
