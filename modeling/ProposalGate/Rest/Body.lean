import ProposalGate.Forge.Call
import ProposalGate.Json.Reader

/-!
# Bodies

What the bodies of answers say. Where a record is expected its fields may also come as a list in
order, and a field may be given only once; what else there is in a body does not count. A file has
rules of its own: anything but an object is no file, and of two fields with one name the last
counts.
-/

namespace ProposalGate.Rest.Body

open Json (Value)

/-! ## Fields -/

/-- The fields of a record: each may be left out, and none may be given twice. A list has to have
at least `least` of them. -/
def record? (names : List String) (least : Nat) : Value → Option (List (Option Value))
  | .object ms => names.mapM fun name =>
      match (Value.object ms).members name with
      | [] => some none
      | [v] => some (some v)
      | _ => none
  | .array items =>
    if least ≤ items.length && items.length ≤ names.length then
      some (items.map some ++ List.replicate (names.length - items.length) none)
    else none
  | _ => none

/-- A list whose elements are all as expected. -/
def listOf? {α : Type} (read : Value → Option α) : Value → Option (List α)
  | .array items => items.mapM read
  | _ => none

/-- A field that has to be there. -/
def needed? {α : Type} (read : Value → Option α) (v : Value) (name : String) : Option α :=
  match v.members name with
  | [field] => read field
  | _ => none

/-- A field that may be left out or be null. -/
def optional? {α : Type} (read : Value → Option α) (v : Value) (name : String) :
    Option (Option α) :=
  match v.members name with
  | [] | [.null] => some none
  | [field] => (read field).map some
  | _ => none

/-- A text or null. -/
def nullableText? : Value → Option (Option String)
  | .null => some none
  | v => v.text?.map some

/-! ## Comparisons and searches -/

/-- A changed file. A status that is not known counts as a modification. -/
def change? (v : Value) : Option Change :=
  match record? ["filename", "status", "previous_filename"] 3 v with
  | some [some path, some status, previous] => do
    let path ← path.text?
    let status ← status.text?
    let previousPath ← nullableText? (previous.getD .null)
    some ⟨path, previousPath, (ChangeStatus.ofName? status).getD .modified⟩
  | _ => none

/-- A record with a single list in it, which is empty if it is left out. -/
def wrapped? {α : Type} (name : String) (read : Value → Option α) (v : Value) : Option (List α) :=
  match record? [name] 0 v with
  | some [some items] => listOf? read items
  | some [none] => some []
  | _ => none

/-- The changed files on a page of a comparison. -/
def changes? (body : List UInt8) : Option (List Change) :=
  (Json.skim? body).bind (wrapped? "files" change?)

/-- The login of an account that was found. -/
def foundLogin? (v : Value) : Option String :=
  match record? ["login"] 1 v with
  | some [some login] => login.text?
  | _ => none

/-- The logins that a search found. -/
def logins? (body : List UInt8) : Option (List String) :=
  (Json.skim? body).bind (wrapped? "items" foundLogin?)

/-! ## Files -/

/-- A field of a file, which is a text if it is there, or else what it is. -/
def fileField (v : Value) (name : String) : Except String (Option String) :=
  let field := (v.member? name).getD .null
  match nullableText? field with
  | some text => .ok text
  | none => .error field.description

/-- The content of a file. Fields are looked at in the order of their names. -/
def fileContent (v : Value) : Except String FileContent := do
  let content ← fileField v "content"
  let encoding ← fileField v "encoding"
  let name ← fileField v "name"
  let path ← fileField v "path"
  return ⟨content, encoding, path, name⟩

/-! ## Pull requests, reviews and comments -/

/-- The fields of an account that are texts. -/
def profile : List String :=
  ["login", "node_id", "avatar_url", "gravatar_id", "url", "html_url", "followers_url",
    "following_url", "gists_url", "starred_url", "subscriptions_url", "organizations_url",
    "repos_url", "events_url", "received_events_url", "type"]

/-- Whether some fields are all there and are texts. -/
def hasTexts (names : List String) (v : Value) : Bool :=
  names.all fun name => (needed? Value.text? v name).isSome

/-- The login of an account with a whole profile. -/
def account? (v : Value) : Option String :=
  if hasTexts profile v && (needed? Value.natural? v "id").isSome then needed? Value.text? v "login"
  else none

/-- The login in the body of an account. -/
def login? (body : List UInt8) : Option String :=
  (Json.skim? body).bind account?

/-- A time. -/
def instant? (v : Value) : Option Instant :=
  v.text?.bind Instant.read?

/-- Whether a pull request is open, by the word for it. -/
def isOpen? (v : Value) : Option Bool :=
  match v.text? with
  | some "open" => some true
  | some "closed" => some false
  | _ => none

/-- The state of a pull request. One without a state counts as closed, and only a closed one can
have been merged. -/
def pullState (isOpen : Option Bool) (merged : Bool) : PullState :=
  match isOpen, merged with
  | some true, _ => .opened
  | some false, true => .merged
  | some false, false | none, _ => .closed

/-- The commit at one end of a pull request. -/
def commit? (v : Value) : Option String :=
  if hasTexts ["ref"] v then needed? Value.text? v "sha" else none

/-- A pull request. -/
def pullRequest? (body : List UInt8) : Option PullRequest := do
  let v ← Json.skim? body
  let number ← needed? Value.natural? v "number"
  let _ ← needed? Value.natural? v "id"
  let _ ← needed? Value.text? v "url"
  let isOpen ← optional? isOpen? v "state"
  let title ← optional? Value.text? v "title"
  let author ← optional? account? v "user"
  let mergedAt ← optional? instant? v "merged_at"
  let base ← needed? commit? v "base"
  let head ← needed? commit? v "head"
  some ⟨number, title.getD "", pullState isOpen mergedAt.isSome, author.getD "", base, head⟩

/-- What a review says, by the word for it. -/
def reviewState? (v : Value) : Option ReviewState :=
  match v.text? with
  | some "APPROVED" => some .approved
  | some "CHANGES_REQUESTED" => some .changesRequested
  | some "COMMENTED" => some .commented
  | some "DISMISSED" => some .dismissed
  | some "PENDING" | some "OPEN" => some .pending
  | _ => none

/-- A review; none inside if nobody is named as the reviewer. -/
def review? (v : Value) : Option (Option Review) := do
  let _ ← needed? Value.natural? v "id"
  let reviewer ← optional? account? v "user"
  let state ← optional? reviewState? v "state"
  let submittedAt ← optional? instant? v "submitted_at"
  if hasTexts ["node_id", "html_url"] v then
    some (reviewer.map fun login => ⟨login, state.getD .pending, submittedAt⟩)
  else none

/-- The reviews on a page. -/
def reviews? (body : List UInt8) : Option (List Review) :=
  ((Json.read body).toOption.bind (listOf? review?)).map (List.filterMap id)

/-- A comment. -/
def comment? (v : Value) : Option Comment := do
  let id ← needed? Value.natural? v "id"
  let text ← optional? Value.text? v "body"
  let author ← needed? account? v "user"
  let _ ← needed? instant? v "created_at"
  if hasTexts ["node_id", "url", "html_url", "author_association"] v then
    some ⟨id, text.getD "", some author⟩
  else none

/-- The comments on a page. -/
def comments? (body : List UInt8) : Option (List Comment) :=
  (Json.read body).toOption.bind (listOf? comment?)

/-- The comment that was written. -/
def writtenComment? (body : List UInt8) : Option Comment :=
  (Json.skim? body).bind comment?

/-- What became of a merge. -/
def mergeResult? (body : List UInt8) : Option MergeResult := do
  let v ← Json.skim? body
  let merged ← needed? Value.bool? v "merged"
  let commit ← optional? Value.text? v "sha"
  let message ← optional? Value.text? v "message"
  some ⟨merged, commit, message⟩

end ProposalGate.Rest.Body
