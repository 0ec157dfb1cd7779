import ProposalGate.Error
import ProposalGate.Text.Blank
import ProposalGate.Text.Word

/-!
# References to a repository

A repository is named by its owner and its name with a slash between them, or by the address it is
cloned from. An address also names the host; a host that is not the usual one counts more than
the one given beside the reference.
-/

namespace ProposalGate

/-- A repository. -/
structure Repository where
  /-- the account or organisation it belongs to -/
  owner : String
  /-- its name -/
  name : String
  /-- the host it is on, if it is not the usual one -/
  host : Option String
  deriving DecidableEq, Repr

namespace Repository

/-- Whether a character may stand in the short form. -/
def isSlugPart (c : Char) : Bool :=
  Text.isWord c || c = '.' || c = '-'

/-- Whether a text may be an owner or a name in the short form. -/
def isSlug (cs : List Char) : Bool :=
  !cs.isEmpty && cs.all isSlugPart

/-- The owner and the name of the short form. -/
def short? (cs : List Char) : Option (List Char × List Char) :=
  match Text.splitAt '/' cs with
  | [owner, name] => if isSlug owner && isSlug name then some (owner, name) else none
  | _ => none

/-- What an address may begin with. -/
def addressStarts : List (List Char) :=
  ["https://".toList, "http://".toList, "git@".toList]

/-- The host on which repositories usually are. -/
def usualHost : String := "github.com"

/-- A name without the ending of clone addresses; a name is never empty. -/
def bareName (cs : List Char) : List Char :=
  match Text.beforeEnd? ".git".toList cs with
  | some name => if name.isEmpty then cs else name
  | none => cs

/-- The name at the end of an address, which may end in a slash. -/
def lastName? (cs : List Char) : Option (List Char) :=
  let cs := (Text.beforeEnd? ['/'] cs).getD cs
  if cs.isEmpty || cs.contains '/' then none else some (bareName cs)

/-- The host, the owner and the name of an address behind its beginning. -/
def parts? (cs : List Char) : Option (List Char × List Char × List Char) := do
  let host := cs.takeWhile fun c => c ≠ '/' && c ≠ ':'
  let path := (cs.drop host.length).drop 1
  let owner := path.takeWhile (· ≠ '/')
  let rest := path.drop owner.length
  let name ← lastName? (rest.drop 1)
  if host.isEmpty || owner.isEmpty || cs.length = host.length || rest.isEmpty then none
  else some (host, owner, name)

/-- The host, the owner and the name of an address. -/
def address? (cs : List Char) : Option (List Char × List Char × List Char) :=
  addressStarts.findSome? fun start => (Text.afterStart? start cs).bind parts?

/-- The repository a text refers to, where `host` is given beside it. The short form keeps that
host; an address brings its own, which is none if it is the usual one. -/
def parse (text : String) (host : Option String) : Except Error Repository :=
  let cs := Text.trimmed text.toList
  match short? cs with
  | some (owner, name) => .ok ⟨String.ofList owner, String.ofList name, host⟩
  | none =>
    match address? cs with
    | some (named, owner, name) =>
      let named := String.ofList named
      .ok ⟨String.ofList owner, String.ofList name, if named = usualHost then none else some named⟩
    | none => .error (.invalidRepository (String.ofList cs))

end Repository

end ProposalGate
