import ProposalGate.Yaml.Token.Block
import ProposalGate.Yaml.Token.Plain
import ProposalGate.Yaml.Token.Quoted
import ProposalGate.Yaml.Token.Tag

/-!
# From a stream to tokens

`Token.scan?` turns a whole stream into its tokens or finds that it has none. Two things need a
memory. Indentation: a deeper column than that of the current block opens a block, a shallower
one closes the blocks it leaves. And keys: a text may turn out to be a key when a colon follows,
so the place of every possible key is kept, one for each open flow collection and one for the
block around them, until the colon comes or can come no more.
-/

namespace ProposalGate.Yaml

/-- A place where a key may have begun. -/
structure PendingKey where
  /-- whether nothing but a key can stand there -/
  required : Bool
  /-- how many tokens come before it -/
  position : Nat
  /-- the line of the place -/
  line : Nat
  /-- the column of the place -/
  column : Nat
  /-- the number of characters before the place -/
  index : Nat

/-- What is known in the middle of a stream. -/
structure Lexer where
  /-- the place reached -/
  cursor : Cursor
  /-- the column of the current block; `-1` before the first -/
  indent : Int
  /-- the columns of the blocks around it, innermost first -/
  outer : List Int
  /-- whether a key may begin here -/
  keyAllowed : Bool
  /-- the possible keys of the open flow collections, innermost first, and of the block -/
  keys : List (Option PendingKey)
  /-- the tokens so far, last one first -/
  tokens : List Token
  /-- how many tokens there are so far -/
  count : Nat

namespace Lexer

/-- The beginning of a stream. -/
def start (cs : List Char) : Lexer :=
  { cursor := Cursor.start cs, indent := -1, outer := [], keyAllowed := true, keys := [none],
    tokens := [], count := 0 }

/-- Whether a flow collection is open. -/
def inFlow (l : Lexer) : Bool :=
  l.keys.length > 1

/-- One more token. -/
def emit (l : Lexer) (t : Token) : Lexer :=
  { l with tokens := t :: l.tokens, count := l.count + 1 }

/-- One more token with a given number of tokens before it. -/
def emitAt (l : Lexer) (position : Nat) (t : Token) : Lexer :=
  let later := l.count - position
  { l with
    tokens := l.tokens.take later ++ t :: l.tokens.drop later
    count := l.count + 1 }

/-- Moves on by a number of characters of the line. -/
def skip (l : Lexer) (n : Nat) : Lexer :=
  { l with cursor := l.cursor.skip n }

/-! ## Keys -/

/-- Gives up the innermost possible key; one that is required must not be given up. -/
def dropKey (l : Lexer) : Option Lexer :=
  match l.keys with
  | some key :: rest => if key.required then none else some { l with keys := none :: rest }
  | _ => some l

/-- Notes that a key may begin here. -/
def noteKey (l : Lexer) : Option Lexer :=
  if l.keyAllowed then do
    let l ← l.dropKey
    let c := l.cursor
    let required := !l.inFlow && l.indent = c.column
    let key : PendingKey := ⟨required, l.count, c.line, c.column, c.index⟩
    some { l with keys := some key :: l.keys.drop 1 }
  else some l

/-- Whether a possible key is too far back to get its colon: on an earlier line, or more than 1024
characters before. -/
def isStale (c : Cursor) (key : PendingKey) : Bool :=
  key.line < c.line || key.index + 1024 < c.index

/-- Gives up all possible keys that are too far back. -/
def dropStale (l : Lexer) : Option Lexer := do
  let keys ← l.keys.mapM fun key =>
    match key with
    | none => some none
    | some key =>
      if isStale l.cursor key then if key.required then none else some none else some (some key)
  some { l with keys := keys }

/-! ## Indentation -/

/-- Opens a block at a column deeper than the current one; its token gets the given place. -/
def roll (l : Lexer) (column : Nat) (position : Nat) (t : Token) : Lexer :=
  if !l.inFlow && l.indent < column then
    { l.emitAt position t with indent := column, outer := l.indent :: l.outer }
  else l

/-- Closes the blocks deeper than a column. -/
def unrollFrom (column : Int) : List Int → Lexer → Lexer
  | [], l => l
  | indent :: outer, l =>
    if column < l.indent then
      unrollFrom column outer { l.emit .blockEnd with indent := indent, outer := outer }
    else l

/-- Closes the blocks deeper than a column, unless a flow collection is open. -/
def unroll (l : Lexer) (column : Int) : Lexer :=
  if l.inFlow then l else unrollFrom column l.outer l

/-! ## The gap before a token -/

/-- Moves over blanks, comments and line breaks. A tab is a blank only where no key may begin, and
in a block a new line allows a key again. -/
def toNext : Nat → Lexer → Lexer
  | 0, l => l
  | fuel + 1, l =>
    let c := l.cursor
    let c := if c.column = 0 && c.peek?.any (·.toNat = 0xFEFF) then c.skip 1 else c
    let tabs := l.inFlow || !l.keyAllowed
    let c := c.dropWhile fun ch => ch = ' ' || (tabs && ch = '\t')
    let c := if c.sees '#' then c.dropWhile Cursor.inLine else c
    match c.lineBreak? with
    | some (_, next) =>
      toNext fuel { l with cursor := next, keyAllowed := l.keyAllowed || !l.inFlow }
    | none => { l with cursor := c }

/-! ## Tokens -/

/-- The end of the stream. -/
def fetchEnd (l : Lexer) : Option Lexer := do
  let l ← (l.unroll (-1)).dropKey
  some (l.emit .streamEnd)

/-- A directive. -/
def fetchDirective (l : Lexer) : Option Lexer := do
  let l ← (l.unroll (-1)).dropKey
  let (token, next) ← Tag.directive? l.cursor
  some { l.emit token with cursor := next, keyAllowed := false }

/-- The start or the end of a document. -/
def fetchMarker (l : Lexer) (t : Token) : Option Lexer := do
  let l ← (l.unroll (-1)).dropKey
  some { (l.emit t).skip 3 with keyAllowed := false }

/-- An opening bracket. -/
def openFlow (l : Lexer) (t : Token) : Option Lexer := do
  let l ← l.noteKey
  some { (l.emit t).skip 1 with keys := none :: l.keys, keyAllowed := true }

/-- A closing bracket. -/
def closeFlow (l : Lexer) (t : Token) : Option Lexer := do
  let l ← l.dropKey
  let keys := if l.inFlow then l.keys.drop 1 else l.keys
  some { (l.emit t).skip 1 with keys := keys, keyAllowed := false }

/-- A comma. -/
def fetchFlowEntry (l : Lexer) : Option Lexer := do
  let l ← l.dropKey
  some { (l.emit .flowEntry).skip 1 with keyAllowed := true }

/-- A hyphen before an item. -/
def fetchBlockEntry (l : Lexer) : Option Lexer := do
  let l ←
    if l.inFlow then some l
    else if l.keyAllowed then some (l.roll l.cursor.column l.count .blockSequenceStart)
    else none
  let l ← l.dropKey
  some { (l.emit .blockEntry).skip 1 with keyAllowed := true }

/-- A question mark before a key. -/
def fetchKey (l : Lexer) : Option Lexer := do
  let l ←
    if l.inFlow then some l
    else if l.keyAllowed then some (l.roll l.cursor.column l.count .blockMappingStart)
    else none
  let l ← l.dropKey
  some { (l.emit .key).skip 1 with keyAllowed := !l.inFlow }

/-- A colon before a value. What stood at the place of the possible key becomes the key. -/
def fetchValue (l : Lexer) : Option Lexer :=
  match l.keys with
  | some key :: outerKeys =>
    let l := (l.emitAt key.position .key).roll key.column key.position .blockMappingStart
    some { (l.emit .value).skip 1 with keys := none :: outerKeys, keyAllowed := false }
  | _ =>
    if l.inFlow then some { (l.emit .value).skip 1 with keyAllowed := false }
    else if l.keyAllowed then
      let l := l.roll l.cursor.column l.count .blockMappingStart
      some { (l.emit .value).skip 1 with keyAllowed := true }
    else none

/-- A token behind which no key may begin, at a place where one may begin. -/
def fetchNode (l : Lexer) (read : Cursor → Option (Token × Cursor)) : Option Lexer := do
  let l ← l.noteKey
  let (token, next) ← read l.cursor
  some { l.emit token with cursor := next, keyAllowed := false }

/-- A literal or folded text. -/
def fetchBlock (l : Lexer) (folded : Bool) : Option Lexer := do
  let l ← l.dropKey
  let (text, next) ← Block.read folded l.indent l.cursor
  some { l.emit (.scalar (String.ofList text) false) with cursor := next, keyAllowed := true }

/-- A quoted text. -/
def fetchQuoted (l : Lexer) (double : Bool) : Option Lexer :=
  l.fetchNode fun c => (Quoted.read double c).map fun (text, next) =>
    (.scalar (String.ofList text) false, next)

/-- A plain text. A line break behind it allows a key again. -/
def fetchPlain (l : Lexer) : Option Lexer := do
  let l ← l.noteKey
  let result ← Plain.read l.inFlow l.indent l.cursor
  some { l.emit (.scalar (String.ofList result.text) true) with
    cursor := result.next
    keyAllowed := result.broken }

/-- The indicators with which a plain text cannot begin. -/
def indicators : List Char :=
  "-?:,[]\x7b\x7d#&*!|>'\"%@`".toList

/-- Whether a plain text can begin with a character, given the one behind it. -/
def startsPlain (inFlow : Bool) (c : Char) (second : Option Char) : Bool :=
  !indicators.contains c
    || (c = '-' && !second.any isSpace)
    || (!inFlow && (c = '?' || c = ':') && !isGap second)

/-- The next token, with what it opens and closes. -/
def fetch (l : Lexer) (c : Char) : Option Lexer :=
  let second := l.cursor.peekAt? 1
  if l.cursor.column = 0 && c = '%' then l.fetchDirective
  else if l.cursor.atMarker '-' then l.fetchMarker .documentStart
  else if l.cursor.atMarker '.' then l.fetchMarker .documentEnd
  else if c = '[' then l.openFlow .flowSequenceStart
  else if c = '\x7b' then l.openFlow .flowMappingStart
  else if c = ']' then l.closeFlow .flowSequenceEnd
  else if c = '\x7d' then l.closeFlow .flowMappingEnd
  else if c = ',' then l.fetchFlowEntry
  else if c = '-' && isGap second then l.fetchBlockEntry
  else if c = '?' && (l.inFlow || isGap second) then l.fetchKey
  else if c = ':' && (l.inFlow || isGap second) then l.fetchValue
  else if c = '*' then l.fetchNode fun c => (Tag.anchor? c).map fun (n, next) => (.alias n, next)
  else if c = '&' then l.fetchNode fun c => (Tag.anchor? c).map fun (n, next) => (.anchor n, next)
  else if c = '!' then l.fetchNode (Tag.tag? l.inFlow)
  else if c = '|' && !l.inFlow then l.fetchBlock false
  else if c = '>' && !l.inFlow then l.fetchBlock true
  else if c = '\'' then l.fetchQuoted false
  else if c = '"' then l.fetchQuoted true
  else if startsPlain l.inFlow c second then l.fetchPlain
  else none

/-- The tokens from a place on. Every token but the last takes up a character, so the number of
characters bounds the number of steps. -/
def run : Nat → Lexer → Option (List Token)
  | 0, _ => none
  | fuel + 1, l => do
    let l ← (toNext (l.cursor.rest.length + 1) l).dropStale
    let l := l.unroll l.cursor.column
    match l.cursor.peek? with
    | none => (l.fetchEnd).map (·.tokens.reverse)
    | some c =>
      match l.fetch c with
      | some next => run fuel next
      | none => none

end Lexer

/-- The tokens of a stream. -/
def Token.scan? (cs : List Char) : Option (List Token) :=
  if cs.all isAllowed then (Lexer.start cs).run (cs.length + 1) else none

end ProposalGate.Yaml
