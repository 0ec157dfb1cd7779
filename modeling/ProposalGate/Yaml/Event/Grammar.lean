import ProposalGate.Text.Utf8
import ProposalGate.Yaml.Event
import ProposalGate.Yaml.Token

/-!
# From tokens to events

A predictive grammar: a stack of goals says what is expected, the goal on top and the next token
decide what happens, and every step emits events and replaces the goal by others. `Event.ofTokens?`
runs the stack down over a whole stream.
-/

namespace ProposalGate.Yaml

/-- What may be expected in a stream. -/
inductive Goal where
  /-- documents up to the end; the first one may begin without a sign -/
  | documents (first : Bool)
  /-- the content of a document that began with a sign -/
  | content
  /-- the end of a document -/
  | documentEnd
  /-- a node; in a block it may be a block collection, and behind a key also a sequence that is
  not indented -/
  | node (block hanging : Bool)
  /-- the items of a block sequence -/
  | items
  /-- the items of a sequence that is not indented -/
  | hangingItems
  /-- the keys of a block mapping -/
  | blockKeys
  /-- the value of a block mapping's key -/
  | blockValue
  /-- the items of a flow sequence, a comma first unless it is the first -/
  | flowItems (first : Bool)
  /-- the key of a pair that stands in a flow sequence -/
  | pairKey
  /-- the value of such a pair -/
  | pairValue
  /-- the end of such a pair -/
  | pairEnd
  /-- the keys of a flow mapping, a comma first unless it is the first -/
  | flowKeys (first : Bool)
  /-- the value of a flow mapping's key -/
  | flowValue
  /-- the missing value of a flow mapping's single node -/
  | missingValue
  deriving DecidableEq, Repr

/-- What tag handles stand for. -/
abbrev Handles := List (String × List UInt8)

/-- The handles that need no directive. -/
def defaultHandles : Handles :=
  [("!", Text.utf8 "!".toList), ("!!", Text.utf8 "tag:yaml.org,2002:".toList)]

/-- A stage in the reading of a stream. -/
structure Stage where
  /-- what is expected, next goal first -/
  goals : List Goal
  /-- the tokens still to be read -/
  tokens : List Token
  /-- what tag handles stand for in this document -/
  handles : Handles
  /-- the events so far, last one first -/
  events : List Event

namespace Stage

/-- One more event. -/
def emit (s : Stage) (e : Event) : Stage :=
  { s with events := e :: s.events }

/-- Replaces the goal on top, which is already taken off. -/
def expect (s : Stage) (goals : List Goal) : Stage :=
  { s with goals := goals ++ s.goals }

/-- Moves on by one token. -/
def advance (s : Stage) : Stage :=
  { s with tokens := s.tokens.drop 1 }

/-- The next token; behind the last one there is only the end. -/
def next (s : Stage) : Token :=
  s.tokens.headD .streamEnd

/-- A node with the goal behind it, or a node that is left out if one of the given tokens is
next. -/
def nodeUnless (s : Stage) (ends : List Token) (node goal : Goal) : Stage :=
  if ends.contains s.next then (s.emit .empty).expect [goal] else s.expect [node, goal]

/-! ## Documents -/

/-- Reads the directives before a document: one version at most, and no handle twice. -/
def directives : List Token → Bool → Handles → Option (List Token × Handles)
  | .version major minor :: rest, versioned, handles =>
    if versioned || major ≠ 1 || (minor ≠ 1 && minor ≠ 2) then none
    else directives rest true handles
  | .tagDirective handle start :: rest, versioned, handles =>
    if handles.any (·.1 = handle) then none
    else directives rest versioned (handles ++ [(handle, start)])
  | tokens, _, handles => some (tokens, handles ++ defaultHandles)

/-- Whether a document begins with this token, and not with a node right away. -/
def beginsDocument : Token → Bool
  | .version .. | .tagDirective .. | .documentStart | .streamEnd => true
  | _ => false

/-- A document, or the end of the stream. -/
def document (s : Stage) (first : Bool) : Option Stage :=
  let s := if first then s else { s with tokens := s.tokens.dropWhile (· = .documentEnd) }
  if first && !beginsDocument s.next then
    some (({ s with handles := defaultHandles }.emit .documentStart).expect
      [.node true false, .documentEnd])
  else if s.next = .streamEnd then some s
  else
    match directives s.tokens false [] with
    | some (.documentStart :: rest, handles) =>
      some (({ s with tokens := rest, handles := handles }.emit .documentStart).expect
        [.content, .documentEnd])
    | _ => none

/-- The content of a document that began with a sign. -/
def documentContent (s : Stage) : Stage :=
  match s.next with
  | .version .. | .tagDirective .. | .documentStart | .documentEnd | .streamEnd => s.emit .empty
  | _ => s.expect [.node true false]

/-- The end of a document. -/
def endDocument (s : Stage) : Stage :=
  let s := if s.next = .documentEnd then s.advance else s
  (s.emit .documentEnd).expect [.documents false]

/-! ## Nodes -/

/-- The tag that a handle and a suffix stand for. -/
def resolve? (s : Stage) (handle : String) (suffix : List UInt8) : Option (List UInt8) :=
  if handle = "" then some suffix
  else (s.handles.find? (·.1 = handle)).map (·.2 ++ suffix)

/-- The anchor and the tag in front of a node, in either order. -/
def properties? (s : Stage) : Option (Properties × Stage) :=
  match s.tokens with
  | .anchor name :: .tag handle suffix :: rest =>
    (s.resolve? handle suffix).map fun tag => (⟨some name, some tag⟩, { s with tokens := rest })
  | .anchor name :: rest => some (⟨some name, none⟩, { s with tokens := rest })
  | .tag handle suffix :: .anchor name :: rest =>
    (s.resolve? handle suffix).map fun tag => (⟨some name, some tag⟩, { s with tokens := rest })
  | .tag handle suffix :: rest =>
    (s.resolve? handle suffix).map fun tag => (⟨none, some tag⟩, { s with tokens := rest })
  | _ => some (.none, s)

/-- The content of a node. -/
def nodeContent (s : Stage) (p : Properties) (block hanging : Bool) : Option Stage :=
  match s.next with
  | .scalar text plain => some (s.advance.emit (.scalar p text plain))
  | .flowSequenceStart => some ((s.advance.emit (.sequenceStart p)).expect [.flowItems true])
  | .flowMappingStart => some ((s.advance.emit (.mappingStart p)).expect [.flowKeys true])
  | .blockEntry =>
    if hanging then some ((s.emit (.sequenceStart p)).expect [.hangingItems]) else left s p
  | .blockSequenceStart =>
    if block then some ((s.advance.emit (.sequenceStart p)).expect [.items]) else left s p
  | .blockMappingStart =>
    if block then some ((s.advance.emit (.mappingStart p)).expect [.blockKeys]) else left s p
  | _ => left s p
where
  /-- A node whose content is left out needs at least an anchor or a tag. -/
  left (s : Stage) (p : Properties) : Option Stage :=
    if p = .none then none else some (s.emit (.scalar p "" true))

/-- A node. -/
def node (s : Stage) (block hanging : Bool) : Option Stage :=
  match s.next with
  | .alias name => some (s.advance.emit (.alias name))
  | _ =>
    match s.properties? with
    | some (p, s) => s.nodeContent p block hanging
    | none => none

/-! ## Collections -/

/-- An item of a block sequence, or its end. -/
def item (s : Stage) : Option Stage :=
  match s.next with
  | .blockEntry => some (s.advance.nodeUnless [.blockEntry, .blockEnd] (.node true false) .items)
  | .blockEnd => some (s.advance.emit .sequenceEnd)
  | _ => none

/-- An item of a sequence that is not indented, or its end. -/
def hangingItem (s : Stage) : Stage :=
  match s.next with
  | .blockEntry =>
    s.advance.nodeUnless [.blockEntry, .key, .value, .blockEnd] (.node true false) .hangingItems
  | _ => s.emit .sequenceEnd

/-- A key of a block mapping, or its end. -/
def blockKey (s : Stage) : Option Stage :=
  match s.next with
  | .key => some (s.advance.nodeUnless [.key, .value, .blockEnd] (.node true true) .blockValue)
  | .blockEnd => some (s.advance.emit .mappingEnd)
  | _ => none

/-- The value of a block mapping's key. -/
def blockValue (s : Stage) : Stage :=
  match s.next with
  | .value => s.advance.nodeUnless [.key, .value, .blockEnd] (.node true true) .blockKeys
  | _ => (s.emit .empty).expect [.blockKeys]

/-- Moves over the comma before an item that is not the first. -/
def comma? (s : Stage) (first : Bool) : Option Stage :=
  if first then some s
  else if s.next = .flowEntry then some s.advance
  else none

/-- An item of a flow sequence, or its end. -/
def flowItem (s : Stage) (first : Bool) : Option Stage :=
  if s.next = .flowSequenceEnd then some (s.advance.emit .sequenceEnd)
  else
    match s.comma? first with
    | none => none
    | some s =>
      match s.next with
      | .key => some ((s.advance.emit (.mappingStart .none)).expect [.pairKey])
      | .flowSequenceEnd => some (s.advance.emit .sequenceEnd)
      | _ => some (s.expect [.node false false, .flowItems false])

/-- The key of a pair in a flow sequence. A key that is left out takes the token behind it along. -/
def pairKey (s : Stage) : Stage :=
  if [Token.value, .flowEntry, .flowSequenceEnd].contains s.next then
    (s.advance.emit .empty).expect [.pairValue]
  else s.expect [.node false false, .pairValue]

/-- The value of a pair in a flow sequence. -/
def pairValue (s : Stage) : Stage :=
  match s.next with
  | .value => s.advance.nodeUnless [.flowEntry, .flowSequenceEnd] (.node false false) .pairEnd
  | _ => (s.emit .empty).expect [.pairEnd]

/-- A key of a flow mapping, or its end. -/
def flowKey (s : Stage) (first : Bool) : Option Stage :=
  if s.next = .flowMappingEnd then some (s.advance.emit .mappingEnd)
  else
    match s.comma? first with
    | none => none
    | some s =>
      match s.next with
      | .key =>
        some (s.advance.nodeUnless [.value, .flowEntry, .flowMappingEnd] (.node false false)
          .flowValue)
      | .flowMappingEnd => some (s.advance.emit .mappingEnd)
      | _ => some (s.expect [.node false false, .missingValue])

/-- The value of a flow mapping's key. -/
def flowValue (s : Stage) : Stage :=
  match s.next with
  | .value =>
    s.advance.nodeUnless [.flowEntry, .flowMappingEnd] (.node false false) (.flowKeys false)
  | _ => (s.emit .empty).expect [.flowKeys false]

/-- Meets the goal on top, which is already taken off. -/
def meet (s : Stage) : Goal → Option Stage
  | .documents first => s.document first
  | .content => some s.documentContent
  | .documentEnd => some s.endDocument
  | .node block hanging => s.node block hanging
  | .items => s.item
  | .hangingItems => some s.hangingItem
  | .blockKeys => s.blockKey
  | .blockValue => some s.blockValue
  | .flowItems first => s.flowItem first
  | .pairKey => some s.pairKey
  | .pairValue => some s.pairValue
  | .pairEnd => some ((s.emit .mappingEnd).expect [.flowItems false])
  | .flowKeys first => s.flowKey first
  | .flowValue => some s.flowValue
  | .missingValue => some ((s.emit .empty).expect [.flowKeys false])

/-- Meets goal after goal until none is left. -/
def run : Nat → Stage → Option (List Event)
  | 0, _ => none
  | fuel + 1, s =>
    match s.goals with
    | [] => some s.events.reverse
    | goal :: goals =>
      match { s with goals := goals }.meet goal with
      | some next => run fuel next
      | none => none

end Stage

/-- The events of a stream. Each token is met by a bounded number of goals. -/
def Event.ofTokens? (tokens : List Token) : Option (List Event) :=
  Stage.run (8 * tokens.length + 8) ⟨[.documents true], tokens, [], []⟩

end ProposalGate.Yaml
