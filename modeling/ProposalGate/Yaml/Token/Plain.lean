import ProposalGate.Yaml.Token.Folding

/-!
# Plain texts

A plain text is written without quotes. It ends at a colon with a blank behind it, at a comment,
at the indicators of flow collections when it stands in one, at a line that starts or ends a
document, and at a line that is indented less than its block.
-/

namespace ProposalGate.Yaml.Plain

/-- Whether a character is an indicator that ends a plain text in a flow collection. -/
def isFlowIndicator (c : Char) : Bool :=
  c = ',' || c = '[' || c = ']' || c = '{' || c = '}'

/-- The number of characters up to the next blank or the end of the text; `none` for a colon in a
flow collection with an indicator right behind it. -/
def wordLength (inFlow : Bool) : List Char → Option Nat
  | [] => some 0
  | c :: rest =>
    if isGap (some c) then some 0
    else if inFlow && c = ':' && rest.head?.any (fun n => n = '?' || isFlowIndicator n) then none
    else if c = ':' && isGap rest.head? then some 0
    else if inFlow && isFlowIndicator c then some 0
    else (wordLength inFlow rest).map (· + 1)

/-- A text read so far. -/
structure Result where
  /-- the text -/
  text : List Char
  /-- whether a line break followed it -/
  broken : Bool
  /-- the place behind it -/
  next : Cursor

/-- The result at a place where the text ends; `pieces` are its words and the gaps between them,
last piece first. -/
def Result.ofPieces (pieces : List (List Char)) (broken : Bool) (next : Cursor) : Result :=
  ⟨pieces.reverse.flatten, broken, next⟩

/-- Reads on word by word. -/
def readFrom (inFlow : Bool) (indent : Int) :
    Nat → List (List Char) → Gap → Cursor → Option Result
  | 0, pieces, gap, c => some (.ofPieces pieces gap.broken c)
  | fuel + 1, pieces, gap, c =>
    if c.atDocument || c.sees '#' then some (.ofPieces pieces gap.broken c)
    else
      match wordLength inFlow c.rest with
      | none => none
      | some 0 => some (.ofPieces pieces gap.broken c)
      | some n =>
        let pieces := c.rest.take n :: gap.folded :: pieces
        let c := c.skip n
        match Gap.read (some indent) c.rest.length Gap.none c with
        | none => none
        | some (gap, next) =>
          if gap.blanks.isEmpty && !gap.broken then some (.ofPieces pieces false next)
          else if !inFlow && (next.column : Int) < indent then
            some (.ofPieces pieces gap.broken next)
          else readFrom inFlow indent fuel pieces gap next

/-- Reads the plain text at a place, in a block of the given indentation. -/
def read (inFlow : Bool) (indent : Int) (c : Cursor) : Option Result :=
  readFrom inFlow (indent + 1) (c.rest.length + 1) [] Gap.none c

end ProposalGate.Yaml.Plain
