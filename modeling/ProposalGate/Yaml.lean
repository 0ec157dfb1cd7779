import ProposalGate.Yaml.Event.Grammar
import ProposalGate.Yaml.Token.Lexer
import ProposalGate.Yaml.Value.Document

/-!
# Reading YAML

A text is read in three steps: its tokens, the events they amount to, and the value of the only
document there may be.
-/

namespace ProposalGate.Yaml

/-- The value a YAML text denotes; `none` if it is not well formed, or not one document. -/
def read? (cs : List Char) : Option Value := do
  let tokens ← Token.scan? cs
  let events ← Event.ofTokens? tokens
  Document.ofEvents? events

end ProposalGate.Yaml
