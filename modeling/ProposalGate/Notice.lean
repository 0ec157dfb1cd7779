import ProposalGate.Decision
import ProposalGate.Encoding
import ProposalGate.PullRequest

/-!
# What is said on a pull request

All violations are listed in one comment, which carries a hidden marker so that it is found again
and edited instead of repeated. Only a comment of the bot's own counts as found, whoever else may
quote the marker. A merge names the proposals it merges, and the authors whose approval is missing
are asked for a review.
-/

namespace ProposalGate.Notice

/-- The hidden marker of the bot's comment. -/
def marker : String := "<!-- eip-bot: compliance report -->"

/-- The introduction of the comment. -/
def introduction : String :=
  "Hi! I'm a bot, and I wanted to automerge your PR, but couldn't because of the following "
    ++ "issue(s):"

/-- The line of one violation. -/
def line (v : Violation) : String :=
  "- " ++ v.text ++ "\n"

/-- The comment that lists some violations. -/
def body (violations : List Violation) : String :=
  marker ++ "\n" ++ introduction ++ "\n\n" ++ String.join (violations.map line)

/-- Whether a text contains another. -/
def contains (part : List Char) : List Char → Bool
  | [] => part.isEmpty
  | c :: rest => (Text.afterStart? part (c :: rest)).isSome || contains part rest

/-- Whether two logins are one, the case of ASCII letters not counted. -/
def sameLogin (a b : String) : Bool :=
  Encoding.asciiLower a = Encoding.asciiLower b

/-- Whether a comment is the bot's own listing. -/
def isOwn (bot : String) (c : Comment) : Bool :=
  contains marker.toList c.body.toList && c.author.any (sameLogin · bot)

/-- The bot's own listing among some comments. -/
def find? (comments : List Comment) (bot : String) : Option Comment :=
  comments.find? (isOwn bot)

/-- The authors whose approval a violation misses. -/
def missingAuthors : Violation → List Identity
  | .missingAuthorApproval _ authors => authors
  | _ => []

/-- The logins to ask for a review: accounts whose approval is missing, but not the author of the
pull request. -/
def reviewers (violations : List Violation) (author : String) : List String :=
  let missing := (violations.flatMap missingAuthors).filter (· ≠ Identity.ofLogin author)
  (Roster.ofList missing).members.filterMap Identity.login?

/-- The squash merge of a pull request with the given proposals. -/
def mergeRequest (pr : PullRequest) (proposals : List Nat) : MergeRequest :=
  { commit := pr.headCommit
    title := "Automatically merged updates to draft EIP(s) "
      ++ ", ".intercalate (proposals.map toString) ++ s!" (#{pr.number})"
    message := "Merged by eip-bot.\n"
      ++ String.join (proposals.map fun n => "\n- " ++ Proposal.numberText n) }

end ProposalGate.Notice
