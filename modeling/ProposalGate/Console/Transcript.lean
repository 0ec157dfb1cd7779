import ProposalGate.Console.Style
import ProposalGate.Dispatch
import ProposalGate.Engine

/-!
# What a command prints

The lines that tell what a run decided and what was done about it, as for a terminal.
-/

namespace ProposalGate.Console

/-- A line with its end. -/
def line (text : String) : String :=
  text ++ "\n"

/-- The lines of a decision. -/
def decisionLines (d : Decision) : List String :=
  match d.outcome with
  | .merge numbers =>
    let names := ", ".intercalate (numbers.map Proposal.numberText)
    ["  " ++ Style.success.apply "Mergeable:" ++ " " ++ Style.accent.apply names]
  | .comment violations =>
    ("  " ++ Style.warning.apply "Blocked:" ++ s!" {violations.length} issue(s)") ::
      violations.map fun v => "    - " ++ v.text
  | .nothing =>
    ("  " ++ Style.muted.apply "No valid proposal edits; leaving the PR alone.") ::
      d.findings.violations.map fun v => "    - " ++ Style.muted.apply v.text

/-- The lines of a run. -/
def runLines (r : Run) : List String :=
  (Style.emphasis.apply s!"PR #{r.pr.number}" ++ " " ++ Style.muted.apply r.pr.title) ::
    decisionLines r.decision

/-- The lines of a run after which nothing is done. -/
def dryRunLines : List String :=
  ["", Style.muted.apply "Dry run: nothing merged or commented."]

/-- What became of the bot's comment, in words. -/
def actionText : CommentAction → String
  | .created => "Comment posted"
  | .updated => "Comment updated"
  | .unchanged => "Comment already up to date"

/-- The lines of what was done. -/
def dispatchLines : Dispatch → List String
  | .merged commit =>
    ["  " ++ Style.success.apply "Merged" ++ " " ++ Style.accent.apply (commit.getD "(no sha)")]
  | .commented action reviewers =>
    ("  " ++ Style.accent.apply (actionText action)) ::
      if reviewers.isEmpty then []
      else ["  Requested reviews from " ++ Style.accent.apply (", ".intercalate reviewers)]
  | .nothing => []

/-- The text of some lines. -/
def render (lines : List String) : String :=
  String.join (lines.map line)

/-- What is printed about an error. -/
def errorText (e : Error) : String :=
  line (Style.failure.apply "error:" ++ " " ++ e.message)

end ProposalGate.Console
