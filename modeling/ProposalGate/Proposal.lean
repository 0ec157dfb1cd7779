import ProposalGate.AuthorList
import ProposalGate.Header
import ProposalGate.Roster

/-!
# Proposals

A version is one document as it stands at one commit. A proposal is what the rules see of a
version: the number its header declares, the number in its file name, its status, its authors and
a name to show. The authors are a parameter, because finding them takes the forge's directory.
-/

namespace ProposalGate

/-- A document at one commit. -/
structure Version where
  /-- the commit -/
  commit : String
  /-- the path it was read from -/
  path : String
  /-- its text -/
  body : String
  /-- its header -/
  header : Header
  deriving DecidableEq, Repr

/-- The version that a text amounts to. -/
def Version.ofBody (commit path body : String) : Version :=
  { commit := commit, path := path, body := body, header := Header.read body }

/-- A proposal as the rules see it. -/
structure Proposal where
  /-- the number its header declares -/
  headerNumber : Option Nat
  /-- the number in the name of the file it was read from -/
  filenameNumber : Option Nat
  /-- its status, in lower case -/
  status : Option String
  /-- its authors -/
  authors : Roster
  /-- its name -/
  name : String
  deriving DecidableEq, Repr

namespace Proposal

/-- The number of a proposal; the header comes before the file name. -/
def number? (p : Proposal) : Option Nat :=
  p.headerNumber <|> p.filenameNumber

/-- How a number is shown. -/
def numberText (n : Nat) : String :=
  s!"EIP-{n}"

/-- The name of a version: its title, or its number, or its path. -/
def nameOf (v : Version) : String :=
  match v.header.title? with
  | some title => title
  | none =>
    match v.header.number? <|> Policy.filenameNumber? v.path with
    | some n => numberText n
    | none => v.path

/-- The proposal a version amounts to, with the given authors. -/
def ofVersion (v : Version) (authors : Roster) : Proposal :=
  { headerNumber := v.header.number?
    filenameNumber := Policy.filenameNumber? v.path
    status := v.header.status?
    authors := authors
    name := nameOf v }

end Proposal

end ProposalGate
