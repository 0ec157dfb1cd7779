import ProposalGate.Decimal.Natural
import ProposalGate.Encoding.Percent
import ProposalGate.Error
import ProposalGate.Rest.Address

/-!
# Addresses

The address of a resource: scheme, host, port, path, query, fragment. There are two ways to make
one of a text. `Url.parse` takes what people write: blanks around it are dropped, dot segments are
resolved, and every byte that may not stand where it stands is escaped. `Url.literal?` takes
nothing but what is an address already, and changes nothing.

A host is a name in ASCII or four numbers. There are others: names in other scripts or with escapes
in them, numbers in other forms, and hosts behind the name of a user. Who has to do with those
brings an `Addressing` of their own: what a client takes for an address is a parameter of whatever
uses a service, and `Addressing.usual` is one of many.
-/

namespace ProposalGate.Rest

/-- How a resource is reached. -/
inductive Scheme where
  /-- in the clear -/
  | http
  /-- encrypted -/
  | https
  deriving DecidableEq, Repr

namespace Scheme

/-- The name of a scheme. -/
def name : Scheme → String
  | .http => "http"
  | .https => "https"

/-- The scheme with a name. -/
def ofName? : String → Option Scheme
  | "http" => some .http
  | "https" => some .https
  | _ => none

/-- The port that is used unless another is named. -/
def usualPort : Scheme → Nat
  | .http => 80
  | .https => 443

end Scheme

/-- The address of a resource. -/
structure Url where
  /-- how the resource is reached -/
  scheme : Scheme
  /-- the host -/
  host : String
  /-- the port, if it is not the usual one -/
  port : Option Nat
  /-- the path, which begins with a slash -/
  path : String
  /-- the query, without its question mark -/
  query : Option String
  /-- the fragment, without its hash sign -/
  fragment : Option String
  deriving DecidableEq, Repr

namespace Url

/-- The path and the query, which is what is sent. -/
def target (u : Url) : String :=
  u.path ++ (u.query.map ("?" ++ ·)).getD ""

/-- The address as a text. -/
def text (u : Url) : String :=
  u.scheme.name ++ "://" ++ u.host ++ (u.port.map fun p => s!":{p}").getD "" ++ u.target
    ++ (u.fragment.map ("#" ++ ·)).getD ""

/-- Whether two resources are reached at the same place. -/
def sameServer (u v : Url) : Bool :=
  u.host = v.host && u.port.getD u.scheme.usualPort = v.port.getD v.scheme.usualPort

/-- The address with one more pair of a name and a form-encoded value in its query. -/
def withParameter (u : Url) (name value : String) : Url :=
  let pair := name ++ "=" ++ Percent.form value
  { u with query := some (match u.query with
      | some q => if q = "" then pair else q ++ "&" ++ pair
      | none => pair) }

/-! ## What people write -/

/-- A text without the controls and blanks around it, and without tabs and line ends in it. -/
def cleaned (cs : List Char) : List Char :=
  let outer (c : Char) : Bool := c.toNat ≤ 32
  let cs := ((cs.dropWhile outer).reverse.dropWhile outer).reverse
  cs.filter fun c => !(c = '\t' || c = '\n' || c = '\r')

/-- Whether a character is printable ASCII and not one of some others. -/
def isPlainBut (others : String) (b : UInt8) : Bool :=
  0x21 ≤ b && b ≤ 0x7E && !others.toList.any fun c => c.toNat = b.toNat

/-- A text in which every byte is escaped that may not stand for itself. -/
def escaped (plain : UInt8 → Bool) (cs : List Char) : String :=
  String.ofList ((Text.utf8 cs).flatMap fun b =>
    if plain b then [Char.ofNat b.toNat] else Percent.escape b)

/-- Whether a byte stands for itself in a path. -/
def plainInPath : UInt8 → Bool := isPlainBut "\"#<>?`\x7b\x7d"

/-- Whether a byte stands for itself in a query. -/
def plainInQuery : UInt8 → Bool := isPlainBut "\"#<>'"

/-- Whether a byte stands for itself in a fragment. -/
def plainInFragment : UInt8 → Bool := isPlainBut "\"<>`"

/-- A segment with each escaped full stop as the character it is. -/
def dots : List Char → List Char
  | '%' :: '2' :: c :: rest =>
    if c = 'e' || c = 'E' then '.' :: dots rest else '%' :: dots ('2' :: c :: rest)
  | c :: rest => c :: dots rest
  | [] => []

/-- Whether a segment stands for the place it is in. -/
def isHere (segment : List Char) : Bool := dots segment = ['.']

/-- Whether a segment stands for the place above. -/
def isAbove (segment : List Char) : Bool := dots segment = ['.', '.']

/-- The segments of a path with dot segments resolved. `before` are those read, last one first. A
dot segment at the end leaves an empty one. -/
def resolved (before : List String) : List (List Char) → List String
  | [] => before.reverse
  | segment :: rest =>
    let after (before : List String) : List String := if rest.isEmpty then "" :: before else before
    if isAbove segment then resolved (after (before.drop 1)) rest
    else if isHere segment then resolved (after before) rest
    else resolved (escaped plainInPath segment :: before) rest

/-- Whether a character separates the segments of a path. -/
def isSlash (c : Char) : Bool := c = '/' || c = '\\'

/-- The path that some characters behind the first slash make. -/
def pathOf (cs : List Char) : String :=
  "/" ++ "/".intercalate (resolved [] (Text.splitFrom isSlash [] cs))

/-- The path, the query and the fragment of what follows the authority, as they are written. -/
def parts (cs : List Char) : List Char × Option (List Char) × Option (List Char) :=
  let fragment := cs.dropWhile (· ≠ '#')
  let cs := cs.takeWhile (· ≠ '#')
  let query := cs.dropWhile (· ≠ '?')
  let rest (cs : List Char) : Option (List Char) := if cs.isEmpty then none else some (cs.drop 1)
  (cs.takeWhile (· ≠ '?'), rest query, rest fragment)

/-- The address with the path, the query and the fragment that a text names. -/
def withParts (u : Url) (path : List Char) (query fragment : Option (List Char)) : Url :=
  { u with
    path := pathOf path
    query := query.map (escaped plainInQuery)
    fragment := fragment.map (escaped plainInFragment) }

/-- Whether a character may stand in the name of a host. -/
def isHostCharacter (c : Char) : Bool :=
  isPlainBut "#/:<>?@[\\]^|%" c.toUInt8 && c.toNat < 0x80

/-- Whether a label would be taken for a number: digits, or what begins as hexadecimal ones do. -/
def isNumeric (label : List Char) : Bool :=
  label.all Char.isDigit || (Text.afterStart? ['0', 'x'] (label.map Char.toLower)).isSome

/-- Whether a label is the number of a byte, written without leading zeros. -/
def isByteLabel (label : List Char) : Bool :=
  (Decimal.below? 10 256 label).any fun n => (toString n).toList = label

/-- Whether a text is a host: a name or, if it ends in a number, four numbers. -/
def isHost (cs : List Char) : Bool :=
  let labels := Text.splitAt '.' cs
  let last := (labels.reverse.dropWhile List.isEmpty).head?
  !cs.isEmpty && cs.all isHostCharacter
    && (!last.any isNumeric || labels.length = 4 && labels.all isByteLabel)

/-- One past the largest port. -/
def portLimit : Nat := 65536

/-- The port that some digits name; no digits name the usual one. -/
def port? (scheme : Scheme) (cs : List Char) : Option (Option Nat) :=
  if cs.isEmpty then some none
  else (Decimal.below? 10 portLimit cs).map fun n => if n = scheme.usualPort then none else some n

/-- The server that an authority names. -/
def server? (scheme : Scheme) (cs : List Char) : Option Url :=
  let host := cs.takeWhile (· ≠ ':')
  if !isHost host then none
  else
    (port? scheme ((cs.drop host.length).drop 1)).map fun port =>
      ⟨scheme, String.ofList (host.map Char.toLower), port, "/", none, none⟩

/-- Whether a character may stand in the name of a scheme behind its first letter. -/
def isSchemeCharacter (c : Char) : Bool :=
  c.isAlphanum || c = '+' || c = '-' || c = '.'

/-- The name of the scheme at the beginning of a text, and what is behind the colon. -/
def schemeName? (cs : List Char) : Option (String × List Char) :=
  let name := cs.takeWhile isSchemeCharacter
  match name, cs.drop name.length with
  | c :: _, ':' :: rest =>
    if c.isAlpha then some (String.ofList (name.map Char.toLower), rest) else none
  | _, _ => none

/-- The address that follows a scheme. Any number of slashes may stand before the authority. -/
def behindScheme? (scheme : Scheme) (cs : List Char) : Option Url :=
  let cs := cs.dropWhile isSlash
  let ends (c : Char) : Bool := isSlash c || c = '?' || c = '#'
  let authority := cs.takeWhile fun c => !ends c
  (server? scheme authority).map fun server =>
    let (path, query, fragment) := parts (cs.drop authority.length)
    server.withParts (path.drop 1) query fragment

/-- The address that a text stands for. -/
def parse (s : String) : Except Break Url :=
  match schemeName? (cleaned s.toList) with
  | none => .error (.badAddress none)
  | some (name, rest) =>
    match Scheme.ofName? name with
    | none => .error (.badAddress (some (name ++ ":" ++ String.ofList rest)))
    | some scheme =>
      match behindScheme? scheme rest with
      | some u => .ok u
      | none => .error (.badAddress none)

/-- The characters of a path up to its last slash, without the first one. -/
def folder (path : List Char) : List Char :=
  (path.reverse.dropWhile fun c => !isSlash c).reverse.drop 1

/-- The address that a reference without a server stands for at an address. -/
def relative (u : Url) (cs : List Char) : Url :=
  let (path, query, fragment) := parts cs
  match path with
  | [] =>
    { u with
      query := match query with
        | some q => some (escaped plainInQuery q)
        | none => u.query
      fragment := fragment.map (escaped plainInFragment) }
  | c :: rest =>
    u.withParts (if isSlash c then rest else folder u.path.toList ++ path) query fragment

/-- The address that a text stands for at an address. -/
def join (u : Url) (s : String) : Except Break Url :=
  let cs := cleaned s.toList
  match schemeName? cs, cs with
  | some _, _ => parse s
  | none, a :: b :: rest =>
    if isSlash a && isSlash b then parse (u.scheme.name ++ "://" ++ String.ofList rest)
    else .ok (u.relative cs)
  | none, cs => .ok (u.relative cs)

/-! ## What is an address already -/

/-- The address below another one that a path and a query stand for, as they are written. -/
def below? (u : Url) (reference : String) : Option Url :=
  if !isPathAndQuery (Text.utf8 reference.toList) then none
  else
    let (path, query, _) := parts reference.toList
    let above := if u.path = "/" then "" else u.path
    some { u with
      path := above ++ String.ofList path, query := query.map String.ofList, fragment := none }

/-- The address that a text is, where a path alone is one below `base`. -/
def literal? (base : Url) (s : String) : Option Url :=
  match s.toList with
  | '/' :: _ => base.below? s
  | cs =>
    match schemeName? cs with
    | some (name, '/' :: '/' :: rest) =>
      (Scheme.ofName? name).bind fun scheme =>
        let ends (c : Char) : Bool := c = '/' || c = '?' || c = '#'
        let authority := rest.takeWhile fun c => !ends c
        (server? scheme authority).bind fun server =>
          let reference := String.ofList (rest.drop authority.length)
          server.below? (if reference.startsWith "/" then reference else "/" ++ reference)
    | _ => none

end Url

/-- **How a client takes texts for addresses.** What is proved of a service holds for every
addressing. -/
structure Addressing where
  /-- the address that a text stands for, or why there is none -/
  read : String → Except Break Url
  /-- the address that a text stands for at another address, or why there is none -/
  readAt : Url → String → Except Break Url

/-- The addressing that takes what people write, with the hosts that `Url.isHost` knows. -/
def Addressing.usual : Addressing := ⟨Url.parse, Url.join⟩

end ProposalGate.Rest
