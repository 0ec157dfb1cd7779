import ProposalGate.AuthorList
import ProposalGate.Forge.Program
import ProposalGate.Proposal

/-!
# Who the authors are

A token of an author list that begins with an at sign is a login. Any other token is a contact;
it is looked up in the user directory by its canonical text, and stands for the first account
found. If none is found, or the look-up fails, the contact itself is the identity.
-/

namespace ProposalGate.Authorship

open Forge (Program Reply)

/-- The text by which a contact is looked up. -/
def searchKey (token : String) : String :=
  Text.lowerCase (Text.trim token)

/-- The identity that a look-up gives a contact. -/
def identityOf (contact : String) (reply : Reply (.users contact)) : Identity :=
  match reply with
  | .ok (login :: _) => Identity.ofLogin login
  | .ok [] | .error _ => Identity.ofContact contact

/-- Whether a token is a login. -/
def isLogin (token : String) : Bool :=
  token.toList.head? = some Identity.accountSign

/-- The identity a token stands for. -/
def identify (token : String) : Program Identity :=
  if isLogin token then pure (Identity.ofLogin token)
  else do
    let reply ← Program.find (searchKey token)
    return identityOf (searchKey token) reply

/-- The identities an author list stands for; its tokens are looked up at the same time. -/
def authorsOf (list : String) : Program Roster := do
  let tokens := AuthorList.tokens list
  let identities ← Program.forAll tokens.length tokens identify
  return Roster.ofList identities

/-- The proposal a version amounts to, with the authors of its header. -/
def proposalOf (v : Version) : Program Proposal := do
  let authors ←
    match v.header.authors? with
    | some list => authorsOf list
    | none => pure Roster.empty
  return Proposal.ofVersion v authors

end ProposalGate.Authorship
