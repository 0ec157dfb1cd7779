import ProposalGate.Json.Value
import ProposalGate.Rest.Status
import ProposalGate.Rest.Url

/-!
# Requests and answers

A request is made in one of two manners. A plain one carries the token and nothing else, and every
redirect counts as a refusal. A versioned one also names the media type and the version of the
interface it expects, and follows redirects.
-/

namespace ProposalGate.Rest

/-- What is done with a resource. -/
inductive Method where
  /-- it is read -/
  | get
  /-- something is added to it -/
  | post
  /-- it is replaced -/
  | put
  deriving DecidableEq, Repr

/-- The name of a method. -/
def Method.name : Method → String
  | .get => "GET"
  | .post => "POST"
  | .put => "PUT"

/-- How a request is made. -/
inductive Manner where
  /-- with the token alone -/
  | plain
  /-- with the media type and the version of the interface -/
  | versioned
  deriving DecidableEq, Repr

/-- A request. -/
structure Request where
  /-- what is done with the resource -/
  method : Method
  /-- the resource -/
  url : Url
  /-- how the request is made -/
  manner : Manner
  /-- the token, unless the request leads to a server that must not see it -/
  token : Option String
  /-- what is sent along -/
  body : Option Json.Value

/-- An answer. -/
structure Response where
  /-- its status -/
  status : Nat
  /-- its headers -/
  headers : List (String × String)
  /-- its body -/
  body : List UInt8

namespace Response

/-- Whether an answer means success. -/
def isSuccess (a : Response) : Bool :=
  Status.isSuccess a.status

/-- The value of a header; the case of its name does not count. -/
def header? (a : Response) (name : String) : Option String :=
  (a.headers.find? (·.1.toLower = name)).map (·.2)

end Response

namespace Request

/-- The media type that a versioned request expects. -/
def mediaType : String := "application/vnd.github+json"

/-- The version of the interface that a versioned request expects. -/
def interfaceVersion : String := "2022-11-28"

/-- How a request is authorised. -/
def authorization? (r : Request) : Option String :=
  r.token.map ("Bearer " ++ ·)

/-- The media type a request names. -/
def accept? (r : Request) : Option String :=
  match r.manner with
  | .plain => none
  | .versioned => some mediaType

/-- The version of the interface a request names. -/
def version? (r : Request) : Option String :=
  match r.manner with
  | .plain => none
  | .versioned => some interfaceVersion

/-- The request for the resource at another address. The token stays with the server it is for. -/
def movedTo (r : Request) (status : Nat) (url : Url) : Request :=
  { r with
    method := if Status.keepsMethod status then r.method else .get
    body := if Status.keepsMethod status then r.body else none
    url := url
    token := if r.url.sameServer url then r.token else none }

/-- Where an answer leads a request: nowhere else, to an address that cannot be used, or to another
request. A redirect to what is no address at all is an answer like any other. -/
def redirect? (addressing : Addressing) (r : Request) (a : Response) :
    Option (Except Break Request) :=
  if !Status.isRedirect a.status then none
  else
    match (a.header? "location").map (addressing.readAt r.url) with
    | some (.ok url) => some (.ok (r.movedTo a.status url))
    | some (.error (.badAddress (some url))) => some (.error (.badAddress (some url)))
    | _ => none

end Request

end ProposalGate.Rest
