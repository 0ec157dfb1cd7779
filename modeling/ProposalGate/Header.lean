import ProposalGate.Policy
import ProposalGate.Text.Blank
import ProposalGate.Text.LowerCase
import ProposalGate.Yaml

/-!
# Headers

A proposal begins with a header: a YAML mapping between two lines of three hyphens. Its attributes
are kept as texts; entries whose key or value has no text are left out. A document without a
header, with one that is never closed, or with one that is no mapping has no attributes. How the
block between the lines is read is a parameter of `readWith`; the framing does not depend on it.
-/

namespace ProposalGate

/-- The attributes of a proposal, in the order of its header. -/
structure Header where
  /-- the names of the attributes and their texts; of two with one name the later one counts -/
  attributes : List (String × String)
  deriving DecidableEq, Repr, Inhabited

namespace Header

/-- The header without attributes. -/
def empty : Header := ⟨[]⟩

/-- The text of an attribute. -/
def get? (h : Header) (key : String) : Option String :=
  (h.attributes.reverse.find? (·.1 = key)).map (·.2)

/-- Whether a header has no attributes. -/
def isEmpty (h : Header) : Bool :=
  h.attributes.isEmpty

/-- The number of the proposal. -/
def number? (h : Header) : Option Nat :=
  (h.get? Policy.numberKey).bind fun text => Decimal.word? (Text.trimmed text.toList)

/-- The status of the proposal, in lower case. -/
def status? (h : Header) : Option String :=
  (h.get? Policy.statusKey).map fun text => Text.lowerCase (Text.trim text)

/-- The author list of the proposal. -/
def authors? (h : Header) : Option String :=
  h.get? Policy.authorKey

/-- The title of the proposal. -/
def title? (h : Header) : Option String :=
  h.get? Policy.titleKey

/-- The attribute that an entry of a mapping gives. -/
def attribute? (entry : Yaml.Value × Yaml.Value) : Option (String × String) := do
  let key ← entry.1.text?
  let value ← entry.2.text?
  some (key, value)

/-- The attributes that a value gives. -/
def ofValue : Yaml.Value → Header
  | .mapping entries => ⟨entries.filterMap attribute?⟩
  | _ => empty

/-! ## Framing -/

/-- The line before a header. -/
def openingLine : List Char := "---".toList

/-- The lines that may follow a header. -/
def closingLines : List (List Char) := ["---".toList, "...".toList]

/-- Whether a line ends a header, blanks behind it not counted. -/
def isClosing (line : List Char) : Bool :=
  closingLines.contains (Text.trimEnd line)

/-- The lines before the first that ends a header, if there is one. -/
def block? : List (List Char) → Option (List (List Char))
  | [] => none
  | line :: rest => if isClosing line then some [] else (block? rest).map (line :: ·)

/-- The lines of a document's header. A byte order mark in front of the document does not
count. -/
def blockOf? (document : List Char) : Option (List (List Char)) :=
  let document := if document.head? = some '\uFEFF' then document.drop 1 else document
  match Text.lines document with
  | first :: rest => if Text.trimEnd first = openingLine then block? rest else none
  | [] => none

/-- The header of a document whose header block is read in a given way. -/
def readWith (read? : List Char → Option Yaml.Value) (document : String) : Header :=
  match blockOf? document.toList with
  | some block =>
    match read? (List.intercalate ['\n'] block) with
    | some value => ofValue value
    | none => empty
  | none => empty

/-- The header of a document. -/
def read (document : String) : Header :=
  readWith Yaml.read? document

end Header

end ProposalGate
