import ProposalGate.Decimal.Natural
import ProposalGate.Yaml.Token.Folding

/-!
# Quoted texts

Between single quotes only the quote itself is special and is written twice. Between double
quotes a backslash begins an escape: a character by name or by its code, or a line break that
stands for nothing. Line breaks are folded in both.
-/

namespace ProposalGate.Yaml.Quoted

/-- The character an escape names. -/
def named? : Char → Option Char
  | '0' => some (Char.ofNat 0)
  | 'a' => some (Char.ofNat 7)
  | 'b' => some (Char.ofNat 8)
  | 't' => some '\t'
  | '\t' => some '\t'
  | 'n' => some '\n'
  | 'v' => some (Char.ofNat 11)
  | 'f' => some (Char.ofNat 12)
  | 'r' => some '\r'
  | 'e' => some (Char.ofNat 27)
  | ' ' => some ' '
  | '"' => some '"'
  | '/' => some '/'
  | '\\' => some '\\'
  | 'N' => some (Char.ofNat 0x85)
  | '_' => some (Char.ofNat 0xA0)
  | 'L' => some (Char.ofNat 0x2028)
  | 'P' => some (Char.ofNat 0x2029)
  | _ => none

/-- How many hexadecimal digits of a code follow. -/
def codeWidth? : Char → Option Nat
  | 'x' => some 2
  | 'u' => some 4
  | 'U' => some 8
  | _ => none

/-- The character of a code; half a character and codes beyond the last have none. -/
def ofCode? (n : Nat) : Option Char :=
  if n.isValidChar then some (Char.ofNat n) else none

/-- The character that the escape at a place stands for, and the place behind it. -/
def escape? (c : Cursor) : Option (Char × Cursor) := do
  let name ← c.peekAt? 1
  match codeWidth? name with
  | none => (named? name).map fun ch => (ch, c.skip 2)
  | some width =>
    let digits := (c.rest.drop 2).take width
    if digits.length < width then none
    else
      let code ← Decimal.value? 16 digits
      (ofCode? code).map fun ch => (ch, c.skip (2 + width))

/-- What the next word of a quoted text runs into. -/
inductive Stop where
  /-- the closing quote or a blank -/
  | ordinary
  /-- an escaped line break -/
  | escapedBreak

/-- Reads the characters up to the next blank, line break or closing quote; `word` are those read
so far, last character first. -/
def readWord (double : Bool) : Nat → List Char → Cursor → Option (List Char × Stop × Cursor)
  | 0, _, _ => none
  | fuel + 1, word, c =>
    match c.peek? with
    | none => some (word.reverse, .ordinary, c)
    | some ch =>
      if isGap (some ch) then some (word.reverse, .ordinary, c)
      else if !double && ch = '\'' then
        if c.peekAt? 1 = some '\'' then readWord double fuel ('\'' :: word) (c.skip 2)
        else some (word.reverse, .ordinary, c)
      else if double && ch = '"' then some (word.reverse, .ordinary, c)
      else if double && ch = '\\' then
        if (c.peekAt? 1).any isBreak then
          some (word.reverse, .escapedBreak, (c.skip 1).dropBreak)
        else
          match escape? c with
          | some (escaped, next) => readWord double fuel (escaped :: word) next
          | none => none
      else readWord double fuel (ch :: word) (c.skip 1)

/-- Reads on word by word up to the closing quote; `pieces` are the words and gaps read so far,
last piece first. -/
def readFrom (double : Bool) :
    Nat → List (List Char) → Cursor → Option (List Char × Cursor)
  | 0, _, _ => none
  | fuel + 1, pieces, c =>
    if c.atDocument || c.rest.isEmpty then none
    else
      match readWord double (c.rest.length + 1) [] c with
      | none => none
      | some (word, stop, c) =>
        let pieces := word :: pieces
        if c.sees (if double then '"' else '\'') then some (pieces.reverse.flatten, c.skip 1)
        else
          let before :=
            match stop with
            | .ordinary => Gap.none
            | .escapedBreak => Gap.escaped
          match Gap.read none c.rest.length before c with
          | none => none
          | some (gap, next) => readFrom double fuel (gap.folded :: pieces) next

/-- Reads the text whose opening quote is at a place. -/
def read (double : Bool) (c : Cursor) : Option (List Char × Cursor) :=
  readFrom double (c.rest.length + 1) [] (c.skip 1)

end ProposalGate.Yaml.Quoted
