import ProposalGate.Repository
import ProposalGate.Rest.Body
import ProposalGate.Rest.Link
import ProposalGate.Rest.Listing

/-!
# A forge behind a service

The calls to a forge as requests to a service. Comparisons, files, searches and requests for
reviews go out as versioned requests, and what goes wrong with one is reported in detail. All other
calls go out as plain requests, and what goes wrong with one is just a failure of the client.
-/

namespace ProposalGate.Rest

/-- A service and how it is used. -/
structure Service where
  /-- the address of the service, without a slash at its end -/
  base : String
  /-- the owner of the repository -/
  owner : String
  /-- the name of the repository -/
  name : String
  /-- the token that is shown -/
  token : String
  /-- the login of the bot, unless the service has to be asked for it -/
  bot : Option String
  /-- how texts are taken for addresses -/
  addressing : Addressing := .usual

namespace Service

/-- The path of the repository. -/
def repositoryPath (s : Service) : String :=
  s!"/repos/{s.owner}/{s.name}"

/-! ## Versioned requests -/

/-- A versioned request. -/
def versioned (s : Service) (method : Method) (url : Url) (body : Option Json.Value) : Request :=
  ⟨method, url, .versioned, some s.token, body⟩

/-- The address of something in the repository. -/
def inRepository (s : Service) (path : String) : Except Break Url :=
  s.addressing.read (s.base ++ s.repositoryPath ++ "/" ++ path)

/-- The answer to a request on an errand, or why there is none. -/
def answerTo (s : Service) (errand : Errand) (r : Except Break Request) (w : Wire) :
    Except Error Response × Wire :=
  match r with
  | .error why => (.error (.service (.unanswered errand why)), w)
  | .ok r =>
    match w.exchange s.addressing r with
    | (.ok a, w) => (.ok a, w)
    | (.error why, w) => (.error (.service (.unanswered errand why)), w)

/-- What it means that an answer on an errand is no success. -/
def refusal (errand : Errand) (a : Response) : Error :=
  .service (.refused errand (Status.text a.status))

/-- What it means that an answer on an errand cannot be read. -/
def unreadable (errand : Errand) : Error :=
  .service (.unreadable errand .badBody)

/-- What an answer on an errand says, if it is a success. -/
def readAs {α : Type} (errand : Errand) (read : List UInt8 → Option α) (a : Response) :
    Except Error α :=
  if a.isSuccess then
    match read a.body with
    | some result => .ok result
    | none => .error (unreadable errand)
  else .error (refusal errand a)

/-- How many files are asked for on a page. -/
def pageSize : Nat := 100

/-- How a comparison is read. The target of the link to the next page is an address as it
stands. -/
def comparison (s : Service) (errand : Errand) : Listing Change :=
  { addressing := s.addressing
    items := readAs errand Body.changes?
    next := fun a =>
      ((a.header? "link").bind Link.next?).map fun target =>
        match s.addressing.read target with
        | .ok url => .ok (s.versioned .get url none)
        | .error why => .error (.service (.unanswered errand why))
    unanswered := fun why => .service (.unanswered errand why)
    refused := refusal errand }

/-- The files that differ between two commits. -/
def compare (s : Service) (base head : String) (w : Wire) : Except Error (List Change) × Wire :=
  let errand := Errand.compare base head
  match s.inRepository s!"compare/{base}...{head}" with
  | .error why => (.error (.service (.unanswered errand why)), w)
  | .ok url =>
    let url := url.withParameter "per_page" (toString pageSize)
    (s.comparison errand).collect (s.versioned .get url none) w

/-- What an answer says about a file. -/
def fileOf (path commit : String) (a : Response) : Except Error (Option FileContent) :=
  let errand := Errand.fetch path commit
  if a.status = Status.notFound then .ok none
  else do
    let v ← readAs errand (fun body => (Json.read body).toOption) a
    if v.isObject then
      match Body.fileContent v with
      | .ok content => return some content
      | .error found => throw (.service (.misshapen path found))
    else return none

/-- The content of a file at a commit, if it is there. -/
def file (s : Service) (path commit : String) (w : Wire) :
    Except Error (Option FileContent) × Wire :=
  let url := (s.inRepository ("contents/" ++ Percent.path path)).map (·.withParameter "ref" commit)
  let (reply, w) := s.answerTo (.fetch path commit) (url.map fun u => s.versioned .get u none) w
  (reply.bind (fileOf path commit), w)

/-- The logins that a search of the user directory finds. -/
def users (s : Service) (query : String) (w : Wire) : Except Error (List String) × Wire :=
  let url := (s.addressing.read (s.base ++ "/search/users")).map (·.withParameter "q" query)
  let (reply, w) := s.answerTo .search (url.map fun u => s.versioned .get u none) w
  (reply.bind (readAs .search Body.logins?), w)

/-- Asks for reviews. What a success says does not matter. -/
def requestReviewers (s : Service) (number : Nat) (logins : List String) (w : Wire) :
    Except Error Unit × Wire :=
  let body := Json.Value.object [("reviewers", .array (logins.map .text))]
  let url := s.inRepository s!"pulls/{number}/requested_reviewers"
  let (reply, w) := s.answerTo .review (url.map fun u => s.versioned .post u (some body)) w
  (reply.bind (readAs .review fun _ => some ()), w)

/-! ## Plain requests -/

/-- A plain request. -/
def plain (s : Service) (method : Method) (url : Url) (body : Option Json.Value) : Request :=
  ⟨method, url, .plain, some s.token, body⟩

/-- The address that a reference stands for. -/
def located? (s : Service) (reference : String) : Option Url :=
  (s.addressing.read s.base).toOption.bind fun base => Url.literal? base reference

/-- What the answer to a plain request says; `failure` is what is reported if anything goes
wrong. -/
def askPlainly {α : Type} (s : Service) (failure : Error) (method : Method) (reference : String)
    (body : Option Json.Value) (read : List UInt8 → Option α) (w : Wire) : Except Error α × Wire :=
  match s.located? reference with
  | none => (.error failure, w)
  | some url =>
    match w.exchange s.addressing (s.plain method url body) with
    | (.error _, w) => (.error failure, w)
    | (.ok a, w) =>
      match a.isSuccess, read a.body with
      | true, some result => (.ok result, w)
      | _, _ => (.error failure, w)

/-- The page that the links of an answer lead to. All its links between pages have to be
references, and of several next pages the last counts. -/
def nextPlain (s : Service) (a : Response) : Option (Except Error Request) :=
  (a.header? "link").bind fun value =>
    let links := (Link.relations value).filter fun (name, _) => Link.pageRelations.contains name
    if Link.isVisible value && links.all fun (_, target) => isReference target then
      (links.filter fun (name, _) => name = "next").getLast?.map fun (_, target) =>
        match s.located? target with
        | some url => .ok (s.plain .get url none)
        | none => .error .client
    else some (.error .client)

/-- How a plain listing is read. -/
def plainListing {α : Type} (s : Service) (read : List UInt8 → Option (List α)) : Listing α :=
  { addressing := s.addressing
    items := fun a =>
      match read a.body with
      | some items => .ok items
      | none => .error .client
    next := s.nextPlain
    unanswered := fun _ => .client
    refused := fun _ => .client }

/-- All items of a plain listing. -/
def list {α : Type} (s : Service) (reference : String) (read : List UInt8 → Option (List α))
    (w : Wire) : Except Error (List α) × Wire :=
  match s.located? reference with
  | none => (.error .client, w)
  | some url => (s.plainListing read).collect (s.plain .get url none) w

/-- What is sent to write a comment. -/
def commentBody (text : String) : Json.Value :=
  .object [("body", .text text)]

/-- What is sent to merge: the commits are squashed into one. -/
def mergeBody (request : MergeRequest) : Json.Value :=
  .object [("commit_title", .text request.title), ("commit_message", .text request.message),
    ("sha", .text request.commit), ("merge_method", .text "squash")]

/-- Reads the body of a written comment for nothing but its form. -/
def written? (body : List UInt8) : Option Unit :=
  (Body.writtenComment? body).map fun _ => ()

/-- The login of the bot. -/
def currentUser (s : Service) (w : Wire) : Except Error String × Wire :=
  match s.bot with
  | some login => (.ok login, w)
  | none => s.askPlainly .client .get "/user" none Body.login? w

/-- The forge behind a service. -/
def forge (s : Service) : Forge Wire := fun c w =>
  let repository := s.repositoryPath
  match c with
  | .pullRequest number =>
    s.askPlainly .client .get s!"{repository}/pulls/{number}" none Body.pullRequest? w
  | .compare base head => s.compare base head w
  | .file path commit => s.file path commit w
  | .users query => s.users query w
  | .reviews number => s.list s!"{repository}/pulls/{number}/reviews?" Body.reviews? w
  | .requestReviewers number logins => s.requestReviewers number logins w
  | .comments number => s.list s!"{repository}/issues/{number}/comments?" Body.comments? w
  | .createComment number text =>
    s.askPlainly .client .post s!"{repository}/issues/{number}/comments" (some (commentBody text))
      written? w
  | .updateComment _ id text =>
    s.askPlainly .client .post s!"{repository}/issues/comments/{id}" (some (commentBody text))
      written? w
  | .merge number request =>
    s.askPlainly (.service .mergeFailed) .put s!"{repository}/pulls/{number}/merge"
      (some (mergeBody request)) Body.mergeResult? w
  | .currentUser => s.currentUser w

end Service

end ProposalGate.Rest
