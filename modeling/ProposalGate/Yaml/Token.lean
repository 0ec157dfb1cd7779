/-!
# Tokens

The tokens of a YAML stream. Indentation is already turned into tokens that open and close block
collections, and a key that is recognised only by the colon behind it already has its own token
in front. Quoted, folded and literal texts are already the text they stand for. The names of tags
are bytes, because a tag may spell out bytes that are no text.
-/

namespace ProposalGate.Yaml

/-- A token of a YAML stream. -/
inductive Token where
  /-- the end of the stream -/
  | streamEnd
  /-- a version directive -/
  | version (major minor : Nat)
  /-- a directive that gives a tag handle its meaning -/
  | tagDirective (handle : String) (start : List UInt8)
  /-- three hyphens -/
  | documentStart
  /-- three full stops -/
  | documentEnd
  /-- a block sequence begins -/
  | blockSequenceStart
  /-- a block mapping begins -/
  | blockMappingStart
  /-- a block collection ends -/
  | blockEnd
  /-- an opening square bracket -/
  | flowSequenceStart
  /-- a closing square bracket -/
  | flowSequenceEnd
  /-- an opening brace -/
  | flowMappingStart
  /-- a closing brace -/
  | flowMappingEnd
  /-- the hyphen before an item of a block sequence -/
  | blockEntry
  /-- the comma between the items of a flow collection -/
  | flowEntry
  /-- a key follows -/
  | key
  /-- a value follows -/
  | value
  /-- a reference to an anchor -/
  | alias (name : String)
  /-- a name for the node that follows -/
  | anchor (name : String)
  /-- a tag for the node that follows -/
  | tag (handle : String) (suffix : List UInt8)
  /-- a text, and whether it is written without quotes or an indicator -/
  | scalar (text : String) (plain : Bool)
  deriving DecidableEq, Repr

end ProposalGate.Yaml
