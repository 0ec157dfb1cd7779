import ProposalGate.Duration
import ProposalGate.Json.Fault

/-!
# Errors

What ends a run or makes a call to the forge fail. Violations of the rules are no errors: they are
findings about a pull request. An error keeps its cause; the wording is in the `message`
functions.
-/

namespace ProposalGate

/-! ## Failures of the service -/

/-- What the service was sent for. -/
inductive Errand where
  /-- the comparison of two commits -/
  | compare (base head : String)
  /-- the content of a file at a commit -/
  | fetch (path commit : String)
  /-- a search of the user directory -/
  | search
  /-- a request for reviews -/
  | review
  deriving DecidableEq, Repr

/-- Why an exchange with the service broke off. -/
inductive Break where
  /-- nothing could be sent to the address -/
  | unsent (url : String)
  /-- the address is none; it is shown if it has the form of one -/
  | badAddress (url : Option String)
  /-- the redirects lead nowhere -/
  | badRedirect (url : String)
  /-- the body is not of the form that was expected -/
  | badBody
  deriving DecidableEq, Repr

/-- The wording of a break. -/
def Break.message : Break → String
  | .unsent url => s!"error sending request for url ({url})"
  | .badAddress (some url) => s!"builder error for url ({url})"
  | .badAddress none => "builder error"
  | .badRedirect url => s!"error following redirect for url ({url})"
  | .badBody => "error decoding response body"

/-- How the service failed. -/
inductive ServiceFault where
  /-- the request was not answered -/
  | unanswered (errand : Errand) (why : Break)
  /-- the answer has a status that is no success -/
  | refused (errand : Errand) (status : String)
  /-- the answer could not be read -/
  | unreadable (errand : Errand) (why : Break)
  /-- the content of a file does not have the expected shape -/
  | misshapen (path : String) (found : String)
  /-- the merge failed -/
  | mergeFailed
  /-- the address of the service is none -/
  | badHost
  deriving DecidableEq, Repr

/-- What could not be done, before the reason. -/
def Errand.failed : Errand → String
  | .compare .. => "Failed to compare commits"
  | .fetch path _ => s!"Failed to fetch {path}"
  | .search => "Failed to search users"
  | .review => "Failed to request reviewers"

/-- What was done, before the status it was answered with. -/
def Errand.answered : Errand → String
  | .compare base head => s!"Compare {base}...{head}"
  | .fetch path commit => s!"Fetching {path}@{commit}"
  | .search => "User search"
  | .review => "Requesting reviewers"

/-- What could not be read, before the reason. -/
def Errand.unread : Errand → String
  | .compare .. => "Failed to parse comparison"
  | .fetch path _ => s!"Failed to parse contents of {path}"
  | .search => "Failed to parse user search"
  | .review => "Failed to parse reviewers"

/-- The wording of a failure of the service. -/
def ServiceFault.message : ServiceFault → String
  | .unanswered errand why => s!"{errand.failed}: {why.message}"
  | .refused errand status => s!"{errand.answered} returned {status}"
  | .unreadable errand why => s!"{errand.unread}: {why.message}"
  | .misshapen path found =>
    s!"Unexpected contents shape for {path}: invalid type: {found}, expected a string"
  | .mergeFailed => "Merge failed"
  | .badHost => "UriParse"

/-! ## Failures before a run -/

/-- Why a file could not be read. -/
inductive FileFault where
  /-- there is none -/
  | missing
  /-- it is a directory -/
  | directory
  /-- its bytes are no text -/
  | notText
  /-- the system has another reason -/
  | other (why : String)
  deriving DecidableEq, Repr

/-- The wording of a file fault. -/
def FileFault.message : FileFault → String
  | .missing => "No such file or directory (os error 2)"
  | .directory => "Is a directory (os error 21)"
  | .notText => "stream did not contain valid UTF-8"
  | .other why => why

/-- What is wrong with the input of a run. -/
inductive InputFault where
  /-- the event could not be read -/
  | unreadable (path : String) (fault : FileFault)
  /-- the event is not JSON -/
  | malformed (path : String) (fault : Json.Fault)
  /-- the event names no pull request -/
  | noNumber (path : String)
  /-- there is neither a number nor an event -/
  | nothingGiven
  deriving DecidableEq, Repr

/-- The wording of an input fault. -/
def InputFault.message : InputFault → String
  | .unreadable path fault => s!"failed to read {path}: {fault.message}"
  | .malformed path fault => s!"failed to parse {path}: {fault.message}"
  | .noNumber path => s!"{path} has no pull request number"
  | .nothingGiven => "no PR number: pass --pr or --event-path"

/-- Why there is no credential. -/
inductive CredentialFault where
  /-- no variable holds a token and the helper program could not be run -/
  | helperUnavailable (fault : FileFault)
  /-- no variable holds a token and the helper program failed -/
  | helperFailed
  /-- the helper program printed no token -/
  | helperSilent
  deriving DecidableEq, Repr

/-- The wording of a credential fault. -/
def CredentialFault.message : CredentialFault → String
  | .helperUnavailable fault =>
    s!"no GITHUB_TOKEN/GH_TOKEN set and gh CLI unavailable: {fault.message}"
  | .helperFailed => "no GITHUB_TOKEN/GH_TOKEN set and `gh auth token` failed"
  | .helperSilent => "`gh auth token` returned no token"

/-! ## Errors -/

/-- What ends a run or makes a call fail. -/
inductive Error where
  /-- the client library reported a failure -/
  | client
  /-- the service failed -/
  | service (fault : ServiceFault)
  /-- another forge reported a failure -/
  | platform (message : String)
  /-- there is no credential -/
  | auth (fault : CredentialFault)
  /-- the text is no reference to a repository -/
  | invalidRepository (text : String)
  /-- the input of the run is wrong -/
  | invalidInput (fault : InputFault)
  /-- the pull request is already merged -/
  | alreadyMerged (number : Nat)
  /-- the pull request cannot be merged -/
  | notMergeable (number : Nat) (reason : String)
  /-- the call took longer than it may -/
  | timeout (budget : Duration)
  deriving DecidableEq, Repr

/-- The wording of an error. -/
def Error.message : Error → String
  | .client => "GitHub API error"
  | .service fault => s!"GitHub API error: {fault.message}"
  | .platform message => s!"platform error: {message}"
  | .auth fault => s!"authentication failed: {fault.message}"
  | .invalidRepository text => s!"invalid repository: {text}"
  | .invalidInput fault => s!"invalid input: {fault.message}"
  | .alreadyMerged number => s!"PR #{number} is already merged"
  | .notMergeable number reason => s!"PR #{number} is not mergeable: {reason}"
  | .timeout budget => s!"request timed out after {budget.text}"

end ProposalGate
