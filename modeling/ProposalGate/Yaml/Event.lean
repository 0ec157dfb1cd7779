/-!
# Events

The structure of a YAML stream, one event for each beginning and end. Tags are resolved: a handle
is replaced by what it stands for. Nodes that are left out have become empty plain texts.
-/

namespace ProposalGate.Yaml

/-- What may be said of a node besides its content. -/
structure Properties where
  /-- the name other nodes may refer to it by -/
  anchor : Option String
  /-- its tag -/
  tag : Option (List UInt8)
  deriving DecidableEq, Repr

/-- No anchor and no tag. -/
def Properties.none : Properties := ⟨.none, .none⟩

/-- An event of a YAML stream. -/
inductive Event where
  /-- a document begins -/
  | documentStart
  /-- a document ends -/
  | documentEnd
  /-- a reference to the node with an anchor -/
  | alias (name : String)
  /-- a text, and whether it is written without quotes or an indicator -/
  | scalar (properties : Properties) (text : String) (plain : Bool)
  /-- a sequence begins -/
  | sequenceStart (properties : Properties)
  /-- a sequence ends -/
  | sequenceEnd
  /-- a mapping begins -/
  | mappingStart (properties : Properties)
  /-- a mapping ends -/
  | mappingEnd
  deriving DecidableEq, Repr

/-- A node that is left out. -/
def Event.empty : Event := .scalar .none "" true

end ProposalGate.Yaml
