import ProposalGate.Text.Utf8
import ProposalGate.Yaml.Event
import ProposalGate.Yaml.Value.Scalar

/-!
# From events to a value

A stream that holds exactly one document denotes a value. An alias stands for the node its anchor
names, which is read again at the place of the alias. Collections may be nested 128 deep, and
aliases may be followed a hundred times for each event of the document; a mapping that has a key
twice has no value.
-/

namespace ProposalGate.Yaml.Document

/-! ## Anchors -/

/-- An event of a document with its anchor replaced by a number, and the name of an alias by the
number it refers to. -/
inductive Piece where
  /-- a reference to a numbered node -/
  | alias (number : Nat)
  /-- a text -/
  | scalar (number : Option Nat) (tag : Option (List UInt8)) (text : String) (plain : Bool)
  /-- a sequence begins -/
  | sequenceStart (number : Option Nat) (tag : Option (List UInt8))
  /-- a sequence ends -/
  | sequenceEnd
  /-- a mapping begins -/
  | mappingStart (number : Option Nat) (tag : Option (List UInt8))
  /-- a mapping ends -/
  | mappingEnd

/-- The number of the node that begins with a piece. -/
def Piece.number? : Piece → Option Nat
  | .scalar number .. | .sequenceStart number _ | .mappingStart number _ => number
  | _ => none

/-- The numbers last given to the names of anchors, each name once. -/
abbrev Names := List (String × Nat)

/-- Numbers the anchor of a node by how many names there are so far. A name that is given again
gets a new number, which the next new name may get too. -/
def Names.define (names : Names) : Option String → Option Nat × Names
  | none => (none, names)
  | some name =>
    let number := names.length
    if names.any (·.1 = name) then
      (some number, names.map fun e => if e.1 = name then (name, number) else e)
    else (some number, (name, number) :: names)

/-- Numbers the anchors and aliases of a document; an alias has to come after its anchor. -/
def pieces? (names : Names) : List Event → Option (List Piece)
  | [] => some []
  | .alias name :: rest => do
    let (_, number) ← names.find? (·.1 = name)
    let pieces ← pieces? names rest
    some (.alias number :: pieces)
  | .scalar p text plain :: rest =>
    let (number, names) := names.define p.anchor
    (pieces? names rest).map (.scalar number p.tag text plain :: ·)
  | .sequenceStart p :: rest =>
    let (number, names) := names.define p.anchor
    (pieces? names rest).map (.sequenceStart number p.tag :: ·)
  | .mappingStart p :: rest =>
    let (number, names) := names.define p.anchor
    (pieces? names rest).map (.mappingStart number p.tag :: ·)
  | .sequenceEnd :: rest => (pieces? names rest).map (.sequenceEnd :: ·)
  | .mappingEnd :: rest => (pieces? names rest).map (.mappingEnd :: ·)
  | .documentStart :: _ | .documentEnd :: _ => none

/-- The pieces from a numbered node on; of two nodes with one number the later one counts. -/
def node? (number : Nat) : List Piece → Option (List Piece)
  | [] => none
  | piece :: rest =>
    match node? number rest with
    | some found => some found
    | none => if piece.number? = some number then some (piece :: rest) else none

/-! ## Tags -/

/-- The name of a tag of its own, one that begins with an exclamation mark. -/
def ownTag? : Option (List UInt8) → Option String
  | some (33 :: rest) => (Text.decode? rest).map String.ofList
  | _ => none

/-- A tag's name as it is compared: one more exclamation mark in front does not count. -/
def comparedName (name : String) : String :=
  match name.toList with
  | '!' :: c :: rest => String.ofList (c :: rest)
  | _ => name

/-- Whether a tag is that of a core type. -/
def isCore (tag : List UInt8) (name : String) : Bool :=
  tag = Text.utf8 ("tag:yaml.org,2002:" ++ name).toList

/-- The value of a text without a tag. -/
def untagged? (text : String) (plain : Bool) : Option Value :=
  if plain then Scalar.plain? text else some (.text text)

/-- The value of a text with a tag that is not its own: the core types are checked, and with any
other tag the text stands for itself. -/
def typed? (tag : List UInt8) (text : String) (plain : Bool) : Option Value :=
  if isCore tag "bool" then (Scalar.bool? text).map .bool
  else if isCore tag "int" then
    match Scalar.integer text.toList with
    | .fits n => some (.number n)
    | _ => none
  else if isCore tag "float" then (Scalar.fraction? text).map fun x => .number (.fraction x)
  else if isCore tag "null" then if Scalar.isNull text then some .null else none
  else if tag.head? = some 33 then untagged? text plain
  else some (.text text)

/-- A value with the tag of its node; a tag without a name is refused. -/
def wrap? (tag : Option (List UInt8)) (value : Value) : Option Value :=
  match ownTag? tag with
  | some name => if name = "" then none else some (.tagged (comparedName name) value)
  | none => some value

/-- The value of a text. -/
def scalar? (tag : Option (List UInt8)) (text : String) (plain : Bool) : Option Value :=
  match tag, ownTag? tag with
  | some bytes, none => typed? bytes text plain
  | _, _ => (untagged? text plain).bind (wrap? tag)

/-! ## Nodes -/

/-- How deep collections may be nested. -/
def depthLimit : Nat := 128

/-- What has been read: the result, the pieces behind it, and how many aliases were followed. -/
abbrev Read (α : Type) := α × List Piece × Nat

mutual

/-- Reads a node of the document `all`, with room for collections of the given depth. -/
def value? (all : List Piece) : Nat → Nat → List Piece → Nat → Option (Read Value)
  | 0, _, _, _ => none
  | fuel + 1, depth, pieces, followed =>
    match pieces with
    | .alias number :: rest =>
      if 100 * all.length < followed + 1 then none
      else
        match node? number all with
        | none => none
        | some target =>
          match value? all fuel depth target (followed + 1) with
          | some (v, _, followed) => some (v, rest, followed)
          | none => none
    | .scalar _ tag text plain :: rest => (scalar? tag text plain).map fun v => (v, rest, followed)
    | .sequenceStart _ tag :: rest =>
      match depth with
      | 0 => none
      | depth + 1 =>
        match items? all fuel depth rest followed [] with
        | some (items, rest, followed) =>
          (wrap? tag (.sequence items)).map fun v => (v, rest, followed)
        | none => none
    | .mappingStart _ tag :: rest =>
      match depth with
      | 0 => none
      | depth + 1 =>
        match entries? all fuel depth rest followed [] with
        | some (entries, rest, followed) =>
          (wrap? tag (.mapping entries)).map fun v => (v, rest, followed)
        | none => none
    | _ => none

/-- Reads the items of a sequence up to its end; `items` are those read so far, last one first. -/
def items? (all : List Piece) :
    Nat → Nat → List Piece → Nat → List Value → Option (Read (List Value))
  | 0, _, _, _, _ => none
  | fuel + 1, depth, pieces, followed, items =>
    match pieces with
    | .sequenceEnd :: rest => some (items.reverse, rest, followed)
    | _ =>
      match value? all fuel depth pieces followed with
      | some (v, rest, followed) => items? all fuel depth rest followed (v :: items)
      | none => none

/-- Reads the entries of a mapping up to its end; no key may be there twice. -/
def entries? (all : List Piece) :
    Nat → Nat → List Piece → Nat → List (Value × Value) → Option (Read (List (Value × Value)))
  | 0, _, _, _, _ => none
  | fuel + 1, depth, pieces, followed, entries =>
    match pieces with
    | .mappingEnd :: rest => some (entries.reverse, rest, followed)
    | _ =>
      match value? all fuel depth pieces followed with
      | none => none
      | some (k, rest, followed) =>
        if entries.any fun e => e.1.same k then none
        else
          match value? all fuel depth rest followed with
          | some (v, rest, followed) => entries? all fuel depth rest followed ((k, v) :: entries)
          | none => none

end

/-- The events of the only document of a stream. -/
def only? : List Event → Option (List Event)
  | .documentStart :: rest =>
    match rest.getLast? with
    | some .documentEnd => some rest.dropLast
    | _ => none
  | _ => none

/-- The value that the only document of a stream denotes. No chain of steps is longer than the
collections can be deep and their items many. -/
def ofEvents? (events : List Event) : Option Value := do
  let events ← only? events
  let pieces ← pieces? [] events
  let (v, _, _) ← value? pieces ((depthLimit + 2) * (pieces.length + 2)) depthLimit pieces 0
  some v

end ProposalGate.Yaml.Document
