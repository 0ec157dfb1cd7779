import ProposalGate.Error
import ProposalGate.Text.Blank
import ProposalGate.Text.Utf8

/-!
# Credentials

A token is taken from the first environment variable that holds one, and otherwise from what a
helper program prints. The helper is run only if no variable holds a token; it is a parameter, so
that looking for a credential is a pure matter.
-/

namespace ProposalGate.Credential

/-- The variables that may hold a token, in the order in which they are looked at. -/
def variableNames : List String := ["GITHUB_TOKEN", "GH_TOKEN"]

/-- Where a token came from. -/
inductive Source where
  /-- from an environment variable -/
  | environment
  /-- from the helper program -/
  | helper
  deriving DecidableEq, Repr

/-- A token and where it came from. -/
structure Token where
  /-- the token -/
  token : String
  /-- where it came from -/
  source : Source
  deriving DecidableEq, Repr

/-- What became of the helper program. -/
inductive Outcome where
  /-- there is no such program -/
  | missing
  /-- it could not be run for another reason -/
  | unavailable (why : String)
  /-- it ended, with an exit code, which is not zero if a signal ended it, and with what it printed -/
  | ended (code : Nat) (output : List UInt8)
  deriving DecidableEq, Repr

/-- A text without the blanks around it, unless nothing is left. -/
def nonBlank? (text : String) : Option String :=
  let trimmed := Text.trim text
  if trimmed = "" then none else some trimmed

/-- The token in the environment. -/
def fromEnvironment? (environment : String → Option String) : Option String :=
  variableNames.findSome? fun name => (environment name).bind nonBlank?

/-- The arguments of the helper program, which has to know the host if it is not the usual one. -/
def helperArguments (host : Option String) : List String :=
  ["auth", "token"] ++
    match host with
    | some h => ["--hostname", h]
    | none => []

/-- The token that the helper program printed. -/
def ofHelper : Outcome → Except Error Token
  | .missing => .error (.auth (.helperUnavailable .missing))
  | .unavailable why => .error (.auth (.helperUnavailable (.other why)))
  | .ended code output =>
    if code ≠ 0 then .error (.auth .helperFailed)
    else
      match nonBlank? (String.ofList (Text.decodeLossy output)) with
      | some token => .ok ⟨token, .helper⟩
      | none => .error (.auth .helperSilent)

/-- A credential that was looked for: the arguments the helper program was run with, if it was, and
the token. -/
structure Search where
  /-- the arguments of the helper program, if it was run -/
  arguments : Option (List String)
  /-- the token -/
  result : Except Error Token

/-- Looks for a credential for a host. -/
def find (environment : String → Option String) (helper : List String → Outcome)
    (host : Option String) : Search :=
  match fromEnvironment? environment with
  | some token => ⟨none, .ok ⟨token, .environment⟩⟩
  | none =>
    let arguments := helperArguments host
    ⟨some arguments, ofHelper (helper arguments)⟩

end ProposalGate.Credential
