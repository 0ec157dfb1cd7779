import ProposalGate.Decimal.Natural
import ProposalGate.Yaml.Cursor

/-!
# Literal and folded texts

A block text follows an indicator on lines of its own. Its indentation is the one given behind
the indicator, or that of its first line. In a folded text a line break between two lines that do
not begin with a blank becomes a space. How the line breaks at the end are kept is given behind
the indicator too: one of them, none or all.
-/

namespace ProposalGate.Yaml.Block

/-- What becomes of the line breaks at the end. -/
inductive Chomping where
  /-- one is kept -/
  | clip
  /-- none is kept -/
  | strip
  /-- all are kept -/
  | keep
  deriving DecidableEq

/-- The chomping that a sign asks for. -/
def chomping? : Option Char → Option Chomping
  | some '+' => some .keep
  | some '-' => some .strip
  | _ => none

/-- The indentation that a digit asks for; a zero is refused. -/
def increment? (c : Cursor) : Option (Option Nat × Cursor) :=
  match c.peek?.bind (Decimal.digit? 10) with
  | some 0 => none
  | some n => some (some n, c.skip 1)
  | none => some (none, c)

/-- What stands behind the indicator: the chomping and the indentation, in either order. -/
def heading? (c : Cursor) : Option (Chomping × Option Nat × Cursor) := do
  match chomping? c.peek? with
  | some chomping =>
    let (increment, c) ← increment? (c.skip 1)
    some (chomping, increment, c)
  | none =>
    let (increment, c) ← increment? c
    match increment, chomping? c.peek? with
    | some n, some chomping => some (chomping, some n, c.skip 1)
    | increment, _ => some (.clip, increment, c)

/-- Reads blank lines up to a line that holds something, and the indentation of that line. An
indentation of zero is not known yet; `deepest` is the deepest one seen, and a tab must not stand
where indentation is still being read. -/
def blankLines : Nat → Nat → Nat → List Char → Cursor → Option (Nat × List Char × Cursor)
  | 0, _, deepest, breaks, c => some (deepest, breaks, c)
  | fuel + 1, indent, deepest, breaks, c =>
    let room := if indent = 0 then c.rest.length else indent - c.column
    let spaces := ((c.rest.take room).takeWhile (· = ' ')).length
    let c := c.skip spaces
    let deepest := max deepest c.column
    if (indent = 0 || c.column < indent) && c.sees '\t' then none
    else
      match c.lineBreak? with
      | some (kept, next) => blankLines fuel indent deepest (breaks ++ [kept]) next
      | none => some (deepest, breaks, c)

/-- Reads blank lines and settles the indentation: the one known, or the deepest seen, at least
one more than that of the surrounding block. -/
def openLines (outer : Int) (indent : Nat) (c : Cursor) : Option (Nat × List Char × Cursor) := do
  let (deepest, breaks, c) ← blankLines (c.rest.length + 1) indent 0 [] c
  let settled := if indent = 0 then max (max deepest (outer + 1).toNat) 1 else indent
  some (settled, breaks, c)

/-- The lines read so far. -/
structure Lines where
  /-- the lines and what joins them, last piece first -/
  pieces : List (List Char)
  /-- the break that ended the last line -/
  last : Option Char
  /-- the breaks of the blank lines after it -/
  blank : List Char
  /-- whether the last line began with a blank -/
  indented : Bool

/-- What joins the next line to the lines before it. -/
def Lines.joint (ls : Lines) (folded indented : Bool) : List Char :=
  if folded && ls.last = some '\n' && !ls.indented && !indented then
    if ls.blank.isEmpty then [' '] else ls.blank
  else ls.last.toList ++ ls.blank

/-- Reads line after line as long as they have the indentation of the text. -/
def readLines (folded : Bool) (outer : Int) (indent : Nat) :
    Nat → Lines → Cursor → Option (Lines × Cursor)
  | 0, ls, c => some (ls, c)
  | fuel + 1, ls, c =>
    if c.column = indent && !c.rest.isEmpty then
      let indented := c.peek?.any isSpace
      let (line, c) := c.takeWhile Cursor.inLine
      let pieces := line :: ls.joint folded indented :: ls.pieces
      let (last, c) :=
        match c.lineBreak? with
        | some (kept, next) => (some kept, next)
        | none => (none, c)
      match openLines outer indent c with
      | none => none
      | some (_, blank, c) => readLines folded outer indent fuel ⟨pieces, last, blank, indented⟩ c
    else some (ls, c)

/-- Reads the text whose indicator is at a place, in a block of the given indentation. -/
def read (folded : Bool) (outer : Int) (c : Cursor) : Option (List Char × Cursor) := do
  let (chomping, increment, c) ← heading? (c.skip 1)
  let c := c.dropWhile isSpace
  let c := if c.sees '#' then c.dropWhile Cursor.inLine else c
  if !(c.rest.isEmpty || c.atBreak) then none
  else
    let c := c.dropBreak
    let given :=
      match increment with
      | some n => if 0 ≤ outer then (outer + n).toNat else n
      | none => 0
    let (indent, blank, c) ← openLines outer given c
    let (ls, c) ← readLines folded outer indent (c.rest.length + 1) ⟨[], none, blank, false⟩ c
    let last := if chomping = .strip then [] else ls.last.toList
    let blank := if chomping = .keep then ls.blank else []
    some (ls.pieces.reverse.flatten ++ last ++ blank, c)

end ProposalGate.Yaml.Block
