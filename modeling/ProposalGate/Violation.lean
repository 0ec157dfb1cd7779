import ProposalGate.Identity
import ProposalGate.Policy
import ProposalGate.Proposal

/-!
# Violations

What keeps a pull request from being merged. Every violation blocks, and its `text` is the line
that the report shows.
-/

namespace ProposalGate

/-- Why the content of a file is missing. -/
inductive MissingContent where
  /-- there is no file at that path and commit -/
  | notFound
  /-- the answer has no content -/
  | noContent
  /-- the answer has no path -/
  | noPath
  /-- the answer has no file name -/
  | noName
  /-- the content is not what its encoding says -/
  | undecodable (reason : String)
  /-- the call did not finish in time -/
  | timedOut
  /-- the call failed -/
  | request (reason : String)
  deriving DecidableEq, Repr

/-- The wording of a reason. -/
def MissingContent.text : MissingContent → String
  | .notFound => "file not found"
  | .noContent => "response had no content"
  | .noPath => "response had no path"
  | .noName => "response had no file name"
  | .undecodable reason => s!"content could not be decoded ({reason})"
  | .timedOut => "request timed out"
  | .request reason => s!"request failed ({reason})"

/-- Something that keeps a pull request from being merged. -/
inductive Violation where
  /-- the path is not that of a proposal -/
  | invalidFilename (path : String)
  /-- the file is new -/
  | newFileRequiresReview (path : String)
  /-- the header declares another number than the file name -/
  | headerFilenameMismatch (path : String) (filenameNumber headerNumber : Option Nat)
  /-- the number is another one than at base -/
  | proposalNumberChanged (path : String) (baseNumber headNumber : Option Nat)
  /-- the status is another one than at base -/
  | illegalStatusChange (path : String) (before after : Option String)
  /-- the status does not allow an edit without an editor -/
  | statusNotEditable (path : String) (status : Option String)
  /-- the content of one version is missing -/
  | remoteContentMissing (path commit : String) (reason : MissingContent)
  /-- the content of one version has an encoding that is not read -/
  | unsupportedEncoding (path commit encoding : String)
  /-- the header at base names nobody -/
  | noIdentifiableAuthors (number : Nat)
  /-- no author approves -/
  | missingAuthorApproval (number : Nat) (authors : List Identity)
  deriving DecidableEq, Repr

namespace Violation

/-- The short name of a kind of violation. -/
def kind : Violation → String
  | .invalidFilename .. => "invalid_filename"
  | .newFileRequiresReview .. => "new_file_requires_review"
  | .headerFilenameMismatch .. => "header_filename_mismatch"
  | .proposalNumberChanged .. => "proposal_number_changed"
  | .illegalStatusChange .. => "illegal_status_change"
  | .statusNotEditable .. => "status_not_editable"
  | .remoteContentMissing .. => "remote_content_missing"
  | .unsupportedEncoding .. => "unsupported_encoding"
  | .noIdentifiableAuthors .. => "no_identifiable_authors"
  | .missingAuthorApproval .. => "missing_author_approval"

/-- A text, or the sign for none. -/
def textOrNone (text : Option String) : String :=
  text.getD "(none)"

/-- A number, or the sign for none. -/
def numberOrNone (n : Option Nat) : String :=
  textOrNone (n.map toString)

/-- The line of a violation. -/
def text : Violation → String
  | .invalidFilename path =>
    s!"`{path}`: file name does not follow the `eip-<number>.md` convention"
  | .newFileRequiresReview path =>
    s!"`{path}`: new proposals must be reviewed by an editor before merging"
  | .headerFilenameMismatch path filenameNumber headerNumber =>
    s!"`{path}`: file name says proposal {numberOrNone filenameNumber} but the header declares "
      ++ numberOrNone headerNumber
  | .proposalNumberChanged path baseNumber headNumber =>
    s!"`{path}`: proposal number changed from {numberOrNone baseNumber} to "
      ++ numberOrNone headNumber
  | .illegalStatusChange path before after =>
    s!"`{path}`: status changed from `{textOrNone before}` to `{textOrNone after}`, "
      ++ "which requires an editor"
  | .statusNotEditable path status =>
    s!"`{path}`: proposals with status `{textOrNone status}` cannot be merged automatically "
      ++ "(allowed: " ++ ", ".intercalate Policy.editableStatuses ++ ")"
  | .remoteContentMissing path commit reason =>
    s!"`{path}`: could not read content at `{commit}`: {reason.text}"
  | .unsupportedEncoding path commit encoding =>
    s!"`{path}`: content at `{commit}` uses unsupported encoding `{encoding}`"
  | .noIdentifiableAuthors number =>
    s!"{Proposal.numberText number}: no author could be identified in the header's author list"
  | .missingAuthorApproval number authors =>
    s!"{Proposal.numberText number}: requires approval from one of "
      ++ "(" ++ ", ".intercalate (authors.map Identity.text) ++ ")"

end Violation

end ProposalGate
