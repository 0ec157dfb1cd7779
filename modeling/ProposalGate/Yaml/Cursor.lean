/-!
# Places in a YAML stream

What is still to be read, with the line, the column and the number of characters read so far.
Indentation is a matter of columns, and how far a key may be from its colon is a matter of lines
and characters. A line ends at any of the five line breaks; a carriage return and a line feed in
a row are one.
-/

namespace ProposalGate.Yaml

/-- Whether a character ends a line. -/
def isBreak (c : Char) : Bool :=
  c = '\n' || c = '\r' || c.toNat = 0x85 || c.toNat = 0x2028 || c.toNat = 0x2029

/-- Whether a character is a space or a tab. -/
def isSpace (c : Char) : Bool :=
  c = ' ' || c = '\t'

/-- Whether there is a space, a tab, a line break or the end of the stream. -/
def isGap : Option Char → Bool
  | none => true
  | some c => isSpace c || isBreak c

/-- Whether a character may be part of a name: an ASCII letter or digit, an underscore or a
hyphen. -/
def isNamePart (c : Char) : Bool :=
  c.isAlphanum || c = '_' || c = '-'

/-- Whether a stream may hold a character. -/
def isAllowed (c : Char) : Bool :=
  let n := c.toNat
  n = 9 || n = 10 || n = 13 || (0x20 ≤ n && n ≤ 0x7E) || n = 0x85 || (0xA0 ≤ n && n ≤ 0xD7FF)
    || (0xE000 ≤ n && n ≤ 0xFFFD) || 0x10000 ≤ n

/-- A place in a stream. -/
structure Cursor where
  /-- what is still to be read -/
  rest : List Char
  /-- the number of lines before this one -/
  line : Nat
  /-- the number of characters before this place on its line -/
  column : Nat
  /-- the number of characters before this place -/
  index : Nat

namespace Cursor

/-- The beginning of a stream. -/
def start (cs : List Char) : Cursor := ⟨cs, 0, 0, 0⟩

/-- The character at a place. -/
def peek? (c : Cursor) : Option Char :=
  c.rest.head?

/-- The character a given distance behind a place. -/
def peekAt? (c : Cursor) (distance : Nat) : Option Char :=
  c.rest[distance]?

/-- Whether a given character is at a place. -/
def sees (c : Cursor) (char : Char) : Bool :=
  c.peek? = some char

/-- The place a number of characters further on the same line. -/
def skip (c : Cursor) (n : Nat) : Cursor :=
  ⟨c.rest.drop n, c.line, c.column + n, c.index + n⟩

/-- The characters from here on that satisfy a condition, and the place behind them. None of them
may be a line break. -/
def takeWhile (c : Cursor) (p : Char → Bool) : List Char × Cursor :=
  let taken := c.rest.takeWhile p
  (taken, c.skip taken.length)

/-- The place behind the characters from here on that satisfy a condition. -/
def dropWhile (c : Cursor) (p : Char → Bool) : Cursor :=
  (c.takeWhile p).2

/-- Whether there is a line break at a place. -/
def atBreak (c : Cursor) : Bool :=
  c.peek?.any isBreak

/-- Whether the line goes on at a place. -/
def inLine (ch : Char) : Bool :=
  !isBreak ch

/-- The place behind a line break, with the character that stands for the break: the line and
paragraph separators stand for themselves and all others for a line feed. -/
def lineBreak? (c : Cursor) : Option (Char × Cursor) :=
  match c.rest with
  | '\r' :: '\n' :: rest => some ('\n', ⟨rest, c.line + 1, 0, c.index + 2⟩)
  | ch :: rest =>
    if isBreak ch then
      let kept := ch.toNat = 0x2028 || ch.toNat = 0x2029
      some (if kept then ch else '\n', ⟨rest, c.line + 1, 0, c.index + 1⟩)
    else none
  | [] => none

/-- The place behind a line break if there is one, else the same place. -/
def dropBreak (c : Cursor) : Cursor :=
  match c.lineBreak? with
  | some (_, next) => next
  | none => c

/-- Whether a line begins here with three of the given characters and nothing attached to them. -/
def atMarker (c : Cursor) (ch : Char) : Bool :=
  c.column = 0 && c.sees ch && c.peekAt? 1 = some ch && c.peekAt? 2 = some ch
    && isGap (c.peekAt? 3)

/-- Whether a line begins here that starts or ends a document. -/
def atDocument (c : Cursor) : Bool :=
  c.atMarker '-' || c.atMarker '.'

end Cursor

end ProposalGate.Yaml
