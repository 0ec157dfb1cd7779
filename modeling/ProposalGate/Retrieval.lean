import ProposalGate.Encoding
import ProposalGate.Forge.Program
import ProposalGate.Violation

/-!
# Retrieving the two versions of a file

The base version and the head version are asked for at the same time. A reply becomes a version
only if it is complete: content, path and name are there, the encoding is one that is read, and
the content is what its encoding says. Anything else becomes a violation, so of a file that fails
in both versions both failures are reported, base first.
-/

namespace ProposalGate.Retrieval

open Forge (Program Reply)

/-- The version that a file's content amounts to. -/
def versionOf (path commit : String) (file : FileContent) : Except Violation Version :=
  match file.content, file.path, file.name with
  | none, _, _ => .error (.remoteContentMissing path commit .noContent)
  | some _, none, _ => .error (.remoteContentMissing path commit .noPath)
  | some _, some _, none => .error (.remoteContentMissing path commit .noName)
  | some content, some _, some _ =>
    let declared := file.encoding.getD ""
    match Encoding.ofName? declared with
    | none => .error (.unsupportedEncoding path commit declared)
    | some encoding =>
      match encoding.decode content with
      | .ok body => .ok (Version.ofBody commit path body)
      | .error fault => .error (.remoteContentMissing path commit (.undecodable fault.message))

/-- The version that a reply amounts to. -/
def versionOfReply (path commit : String) (reply : Reply (.file path commit)) :
    Except Violation Version :=
  match reply with
  | .ok (some file) => versionOf path commit file
  | .ok none => .error (.remoteContentMissing path commit .notFound)
  | .error (.timeout _) => .error (.remoteContentMissing path commit .timedOut)
  | .error e => .error (.remoteContentMissing path commit (.request e.message))

/-- Retrieves one version. -/
def version (path commit : String) : Program (Except Violation Version) := do
  let reply ← Program.call (.file path commit)
  return versionOfReply path commit reply

/-- The violation of a version that was not obtained. -/
def failure? : Except Violation Version → List Violation
  | .ok _ => []
  | .error v => [v]

/-- Both versions, or everything that kept them from being obtained. -/
def together (base head : Except Violation Version) :
    Except (List Violation) (Version × Version) :=
  match base, head with
  | .ok b, .ok h => .ok (b, h)
  | b, h => .error (failure? b ++ failure? h)

/-- Retrieves the versions of a changed file at two commits. -/
def versions (c : Change) (baseCommit headCommit : String) :
    Program (Except (List Violation) (Version × Version)) := do
  let (base, head) ← Program.pair (version c.basePath baseCommit) (version c.path headCommit)
  return together base head

end ProposalGate.Retrieval
