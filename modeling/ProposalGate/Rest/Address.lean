import ProposalGate.Text.Utf8

/-!
# The address of a service

The service of a host is addressed below a path of its own. A host is taken as it is given, so
what comes out need not be an address: between the scheme and the path there may only be the bytes
of an authority, with balanced brackets and at most one port, and the path and the query may not
hold bytes that have to be escaped.
-/

namespace ProposalGate.Rest

/-- The service that is used when no host is given. -/
def usualBase : String := "https://api.github.com"

/-- A text without the slashes at its end. -/
def withoutSlashes (s : String) : String :=
  String.ofList (s.toList.reverse.dropWhile (· = '/')).reverse

/-- The address of the service of a host. -/
def baseOf : Option String → String
  | none => usualBase
  | some host => withoutSlashes s!"https://{host}/api/v3"

/-- Whether a byte lies between two others. -/
def within (b low high : UInt8) : Bool :=
  low ≤ b && b ≤ high

/-- Whether a byte may stand in an authority. -/
def isAuthorityByte (b : UInt8) : Bool :=
  within b 48 57 || within b 65 90 || within b 97 122
    || "!$&'()*+,-.:;=@[]_~".toList.any fun c => c.toNat = b.toNat

/-- What is known in the middle of an authority. -/
structure Authority where
  /-- the colons since the last at sign or bracket -/
  colons : Nat
  /-- whether there was an opening bracket -/
  opened : Bool
  /-- whether there was a closing bracket -/
  closed : Bool
  /-- whether there was a percent sign since the last at sign or bracket -/
  percent : Bool
  /-- whether the last byte was an at sign -/
  atSign : Bool

/-- The most colons there may be before brackets close them in. -/
def colonLimit : Nat := 8

/-- Takes one more byte into account. -/
def Authority.step? (a : Authority) (b : UInt8) : Option Authority :=
  let a' := { a with atSign := false }
  if b = 58 then if colonLimit ≤ a.colons then none else some { a' with colons := a.colons + 1 }
  else if b = 91 then if a.percent || a.opened then none else some { a' with opened := true }
  else if b = 93 then
    if !a.opened || a.closed then none
    else some { a' with closed := true, colons := 0, percent := false }
  else if b = 64 then some { a with colons := 0, percent := false, atSign := true }
  else if b = 37 then some { a' with percent := true }
  else if isAuthorityByte b then some a'
  else none

/-- Whether the bytes read amount to an authority. -/
def Authority.isComplete (a : Authority) : Bool :=
  a.opened == a.closed && a.colons ≤ 1 && !a.percent && !a.atSign

/-- Whether a byte ends an authority. -/
def endsAuthority (b : UInt8) : Bool :=
  b = 47 || b = 63 || b = 35

/-- Whether some bytes are an authority. -/
def isAuthority (bs : List UInt8) : Bool :=
  !bs.isEmpty &&
    ((bs.foldlM Authority.step? ⟨0, false, false, false, false⟩).any Authority.isComplete)

/-- Whether a byte may stand in a path. -/
def isPathByte (b : UInt8) : Bool :=
  b = 0x21 || b = 0x22 || within b 0x24 0x3B || b = 0x3D || within b 0x40 0x5F || within b 0x61 0x7E
    || 0x7F ≤ b

/-- Whether a byte may stand in a query. -/
def isQueryByte (b : UInt8) : Bool :=
  b = 0x21 || within b 0x24 0x3B || b = 0x3D || 0x3F ≤ b

/-- Whether some bytes are a path and perhaps a query; what follows a hash sign is not looked
at. -/
def isPathAndQuery (bs : List UInt8) : Bool :=
  let bs := bs.takeWhile (· ≠ 35)
  (bs.takeWhile (· ≠ 63)).all isPathByte && ((bs.dropWhile (· ≠ 63)).drop 1).all isQueryByte

/-- The most bytes an address may have. -/
def lengthLimit : Nat := 65534

/-- Whether some bytes are an authority, perhaps with a path and a query behind it. -/
def isServerAndPath (bs : List UInt8) : Bool :=
  isAuthority (bs.takeWhile fun b => !endsAuthority b)
    && isPathAndQuery (bs.dropWhile fun b => !endsAuthority b)

/-- Whether a text that begins with the scheme is an address. -/
def isAddress (s : String) : Bool :=
  let bytes := Text.utf8 s.toList
  bytes.length ≤ lengthLimit && isServerAndPath (bytes.drop "https://".length)

/-- Whether a byte may stand in the name of a scheme. -/
def isSchemeByte (b : UInt8) : Bool :=
  within b 48 57 || within b 65 90 || within b 97 122 || b = 43 || b = 45 || b = 46

/-- Whether a text may stand where an address or a part of one is expected: a path, a server, or a
server behind a scheme. -/
def isReference (s : String) : Bool :=
  let bytes := Text.utf8 s.toList
  if lengthLimit < bytes.length then false
  else
    match bytes.dropWhile isSchemeByte, bytes with
    | 58 :: 47 :: 47 :: rest, _ => isServerAndPath rest
    | _, 47 :: _ => isPathAndQuery bytes
    | _, _ => isAuthority bytes || s = "*"

end ProposalGate.Rest
