import ProposalGate.Console.Transcript

/-!
# The command

Decide, tell what was decided, then carry it out, unless only a decision was asked for. What has
been printed before an error stays printed.
-/

namespace ProposalGate

/-- How a run is made. -/
structure Options where
  /-- how many files may be judged at the same time -/
  concurrency : Nat
  /-- how long a call may take -/
  budget : Duration
  deriving DecidableEq, Repr

/-- The options asked for by two numbers; each is at least one. -/
def Options.ofNumbers (concurrency seconds : Nat) : Options :=
  { concurrency := max concurrency 1, budget := Duration.seconds (max seconds 1) }

namespace Command

open Forge (Program)

/-- What a command comes to: what it printed, and the error that ended it, if one did. -/
structure Result where
  /-- the lines it printed -/
  lines : List String
  /-- the error that ended it -/
  failure : Option Error

/-- The command for one pull request. -/
def program (number concurrency : Nat) (dryRun : Bool) : Program Result := do
  match ← Engine.run number concurrency with
  | .error e => return ⟨[], some e⟩
  | .ok run =>
    let lines := Console.runLines run
    if dryRun then return ⟨lines ++ Console.dryRunLines, none⟩
    else
      match ← Dispatch.perform run.pr run.decision.outcome with
      | .error e => return ⟨lines, some e⟩
      | .ok done => return ⟨lines ++ Console.dispatchLines done, none⟩

end Command

end ProposalGate
