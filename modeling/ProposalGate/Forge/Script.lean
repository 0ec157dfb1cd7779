import ProposalGate.Forge.Call

/-!
# A forge in memory

A forge whose pull requests, files, users, reviews and comments are given beforehand. Any kind of
call can be made to fail with a message or to take a given time; a call that takes longer than it
may has no effect. Comments are the part of it that changes.
-/

namespace ProposalGate.Forge

/-- The content of a file at a commit. -/
structure ScriptedFile where
  /-- the path it is asked for by -/
  path : String
  /-- the commit it is asked for at -/
  commit : String
  /-- the answer -/
  answer : FileContent
  deriving Repr

/-- What a forge knows and how it behaves. -/
structure Script where
  /-- the login of the bot -/
  bot : String
  /-- the pull requests -/
  pullRequests : List PullRequest
  /-- the answer to every comparison -/
  changes : List Change
  /-- the files -/
  files : List ScriptedFile
  /-- the logins that a query finds -/
  users : List (String × List String)
  /-- the reviews of every pull request -/
  reviews : List Review
  /-- the comments on every pull request -/
  comments : List Comment
  /-- the answer to a merge; without one the merge succeeds -/
  mergeResult : Option MergeResult
  /-- the messages with which calls fail, by the kind of call -/
  failures : List (String × String)
  /-- the milliseconds that calls take, by the kind of call -/
  delays : List (String × Nat)
  /-- how many comments were created -/
  created : Nat
  deriving Repr

namespace Script

/-- The forge that knows nothing. -/
def empty : Script :=
  { bot := "eip-bot", pullRequests := [], changes := [], files := [], users := [], reviews := [],
    comments := [], mergeResult := none, failures := [], delays := [], created := 0 }

/-- The name of a kind of call; reading a file and searching name what is asked for. -/
def kind : Call → String
  | .pullRequest _ => "get_pr"
  | .compare .. => "compare"
  | .file path _ => "file:" ++ path
  | .users query => "search:" ++ query
  | .reviews _ => "list_reviews"
  | .requestReviewers .. => "request_reviewers"
  | .comments _ => "list_comments"
  | .createComment .. => "create_comment"
  | .updateComment .. => "update_comment"
  | .merge .. => "merge"
  | .currentUser => "current_user"

/-- What is noted for a kind of call. -/
def noted? {α : Type} (notes : List (String × α)) (c : Call) : Option α :=
  (notes.reverse.find? (·.1 = kind c)).map (·.2)

/-- The comment with a number gets a new text. -/
def rewrite (id : Nat) (body : String) (c : Comment) : Comment :=
  if c.id = id then { c with body := body } else c

/-- The number of the next comment. -/
def nextId (s : Script) : Nat := 1000 + s.created

/-- The reply to a call that is in time and does not fail. -/
def answer : (c : Call) → Script → Reply c × Script
  | .pullRequest number, s =>
    match s.pullRequests.find? (·.number = number) with
    | some pr => (.ok pr, s)
    | none => (.error (.platform s!"PR #{number} not found"), s)
  | .compare .., s => (.ok s.changes, s)
  | .file path commit, s =>
    (.ok ((s.files.find? fun f => f.path = path ∧ f.commit = commit).map (·.answer)), s)
  | .users query, s => (.ok (((s.users.reverse.find? (·.1 = query)).map (·.2)).getD []), s)
  | .reviews _, s => (.ok s.reviews, s)
  | .requestReviewers .., s => (.ok (), s)
  | .comments _, s => (.ok s.comments, s)
  | .createComment _ body, s =>
    let comment : Comment := { id := s.nextId, body := body, author := some s.bot }
    (.ok (), { s with comments := s.comments ++ [comment], created := s.created + 1 })
  | .updateComment _ id body, s =>
    (.ok (), { s with comments := s.comments.map (rewrite id body) })
  | .merge number _, s =>
    (.ok (s.mergeResult.getD ⟨true, some s!"merged_sha_{number}", none⟩), s)
  | .currentUser, s => (.ok s.bot, s)

/-- The forge a script describes, where no call may take longer than the budget. -/
def within (budget : Duration) : Forge Script := fun c s =>
  match noted? s.delays c, noted? s.failures c with
  | some delay, failure =>
    if budget.milliseconds < delay then (.error (.timeout budget), s)
    else
      match failure with
      | some message => (.error (.platform message), s)
      | none => answer c s
  | none, some message => (.error (.platform message), s)
  | none, none => answer c s

end Script

end ProposalGate.Forge
