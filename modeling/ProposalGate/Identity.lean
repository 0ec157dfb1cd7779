import ProposalGate.Text.Blank
import ProposalGate.Text.LowerCase

/-!
# Identities

People are known by the login of a forge account or, where no account was found, by the contact
an author list gives. Both are kept in one canonical text, so that two spellings of one login are
one identity: an account is its login in lower case behind an at sign, a contact is the contact
in lower case.
-/

namespace ProposalGate

/-- A canonical reference to a person. -/
structure Identity where
  /-- the canonical text -/
  text : String
  deriving DecidableEq, Repr, Inhabited

namespace Identity

/-- The sign that marks an account. -/
def accountSign : Char := '@'

/-- A login without the blanks around it and without the at signs before it. -/
def bareLogin (login : String) : List Char :=
  (Text.trimmed login.toList).dropWhile (· = accountSign)

/-- The identity of an account, from its login in any spelling. -/
def ofLogin (login : String) : Identity :=
  ⟨String.ofList (accountSign :: Text.lowerFrom [] (bareLogin login))⟩

/-- The identity of a contact for which no account is known. -/
def ofContact (contact : String) : Identity :=
  ⟨Text.lowerCase (Text.trim contact)⟩

/-- The login of an account; a contact has none. -/
def login? (i : Identity) : Option String :=
  match i.text.toList with
  | c :: rest => if c = accountSign then some (String.ofList rest) else none
  | [] => none

end Identity

end ProposalGate
