import ProposalGate.Decimal.Natural
import ProposalGate.Encoding.Hex
import ProposalGate.Text.Utf8
import ProposalGate.Yaml.Cursor
import ProposalGate.Yaml.Token

/-!
# Names, tags and directives

Anchors, aliases and directives have names; a tag is a handle and a suffix, or a whole tag
between angle brackets. A suffix may spell bytes as a percent sign and two hexadecimal digits;
they have to come in the widths that characters have.
-/

namespace ProposalGate.Yaml.Tag

/-- A name of letters, digits, underscores and hyphens, and the place behind it. -/
def name? (c : Cursor) : Option (String × Cursor) :=
  let (chars, next) := c.takeWhile isNamePart
  if chars.isEmpty then none else some (String.ofList chars, next)

/-- The anchor or alias whose indicator is at a place. -/
def anchor? (c : Cursor) : Option (String × Cursor) := do
  let (name, next) ← name? (c.skip 1)
  if isGap next.peek? || next.peek?.any "?:,]\x7d%@`".toList.contains then some (name, next)
  else none

/-- Whether a character may stand in a suffix; commas and square brackets only where they cannot
be the indicators of a flow collection. -/
def isSuffixPart (whole : Bool) (c : Char) : Bool :=
  isNamePart c || ";/?:@&=+$.%!~*'()".toList.contains c || (whole && ",[]".toList.contains c)

/-- The byte spelled by a percent sign and two digits, and the place behind it. -/
def escapedByte? (c : Cursor) : Option (UInt8 × Cursor) :=
  match c.rest with
  | '%' :: a :: b :: _ =>
    match Hex.decode (Text.utf8 [a, b]) with
    | .ok [byte] => some (byte, c.skip 3)
    | _ => none
  | _ => none

/-- How many bytes the character takes that begins with a byte. -/
def escapeWidth? (b : UInt8) : Option Nat :=
  let n := b.toNat
  if n < 0x80 then some 1
  else if n / 0x20 = 6 then some 2
  else if n / 0x10 = 14 then some 3
  else if n / 8 = 30 then some 4
  else none

/-- The given number of continuation bytes, spelled with percent signs. -/
def continuation? : Nat → Cursor → Option (List UInt8 × Cursor)
  | 0, c => some ([], c)
  | n + 1, c => do
    let (byte, c) ← escapedByte? c
    if Text.isContinuation byte then
      let (bytes, c) ← continuation? n c
      some (byte :: bytes, c)
    else none

/-- A character spelled with percent signs. -/
def escapedChar? (c : Cursor) : Option (List UInt8 × Cursor) := do
  let (byte, c) ← escapedByte? c
  let width ← escapeWidth? byte
  let (bytes, c) ← continuation? (width - 1) c
  some (byte :: bytes, c)

/-- Reads the characters of a suffix; `pieces` are those read so far, last one first. -/
def suffixFrom (whole : Bool) : Nat → List (List UInt8) → Cursor → Option (List UInt8 × Cursor)
  | 0, pieces, c => some (pieces.reverse.flatten, c)
  | fuel + 1, pieces, c =>
    match c.peek? with
    | none => some (pieces.reverse.flatten, c)
    | some ch =>
      if !isSuffixPart whole ch then some (pieces.reverse.flatten, c)
      else if ch = '%' then
        match escapedChar? c with
        | some (bytes, next) => suffixFrom whole fuel (bytes :: pieces) next
        | none => none
      else suffixFrom whole fuel (Text.utf8 [ch] :: pieces) (c.skip 1)

/-- A suffix that may be empty. -/
def suffix? (whole : Bool) (c : Cursor) : Option (List UInt8 × Cursor) :=
  suffixFrom whole (c.rest.length + 1) [] c

/-- A suffix that may not be empty. -/
def fullSuffix? (whole : Bool) (c : Cursor) : Option (List UInt8 × Cursor) :=
  match suffix? whole c with
  | some (bytes, next) => if next.index = c.index then none else some (bytes, next)
  | none => none

/-- An exclamation mark, the name characters behind it, and a closing exclamation mark if there
is one. -/
def handle? (c : Cursor) : Option (List Char × Cursor) :=
  if c.sees '!' then
    let (chars, next) := (c.skip 1).takeWhile isNamePart
    if next.sees '!' then some ('!' :: chars ++ ['!'], next.skip 1) else some ('!' :: chars, next)
  else none

/-- Whether a handle is closed by a second exclamation mark. -/
def isClosed (handle : List Char) : Bool :=
  handle.length > 1 && handle.getLast? = some '!'

/-- The handle and the suffix of the tag at a place. A handle that is not closed is the beginning
of a suffix of the primary handle; an exclamation mark alone has no handle at all. -/
def parts? (c : Cursor) : Option (String × List UInt8 × Cursor) :=
  if c.peekAt? 1 = some '<' then do
    let (bytes, next) ← fullSuffix? true (c.skip 2)
    if next.sees '>' then some ("", bytes, next.skip 1) else none
  else do
    let (handle, next) ← handle? c
    if isClosed handle then
      let (bytes, next) ← fullSuffix? false next
      some (String.ofList handle, bytes, next)
    else
      let (bytes, next) ← suffix? false next
      let bytes := Text.utf8 (handle.drop 1) ++ bytes
      if bytes.isEmpty then some ("", Text.utf8 ['!'], next) else some ("!", bytes, next)

/-- The tag at a place. -/
def tag? (inFlow : Bool) (c : Cursor) : Option (Token × Cursor) := do
  let (handle, bytes, next) ← parts? c
  if isGap next.peek? || (inFlow && next.sees ',') then some (.tag handle bytes, next) else none

/-! ## Directives -/

/-- A number of at most nine digits. -/
def versionNumber? (c : Cursor) : Option (Nat × Cursor) :=
  let (digits, next) := c.takeWhile Char.isDigit
  if digits.length > 9 then none
  else (Decimal.value? 10 digits).map fun n => (n, next)

/-- The rest of a version directive. -/
def version? (c : Cursor) : Option (Token × Cursor) := do
  let (major, c) ← versionNumber? (c.dropWhile isSpace)
  if c.sees '.' then
    let (minor, c) ← versionNumber? (c.skip 1)
    some (.version major minor, c)
  else none

/-- The rest of a directive for a tag handle. -/
def tagDirective? (c : Cursor) : Option (Token × Cursor) := do
  let (handle, c) ← handle? (c.dropWhile isSpace)
  if !(isClosed handle || handle.length = 1) || !c.peek?.any isSpace then none
  else
    let (bytes, c) ← fullSuffix? true (c.dropWhile isSpace)
    if isGap c.peek? then some (.tagDirective (String.ofList handle) bytes, c) else none

/-- The directive whose percent sign is at a place, and the place on the next line. -/
def directive? (c : Cursor) : Option (Token × Cursor) := do
  let (name, c) ← name? (c.skip 1)
  if !isGap c.peek? then none
  else
    let (token, c) ←
      if name = "YAML" then version? c else if name = "TAG" then tagDirective? c else none
    let c := c.dropWhile isSpace
    let c := if c.sees '#' then c.dropWhile Cursor.inLine else c
    if c.rest.isEmpty || c.atBreak then some (token, c.dropBreak) else none

end ProposalGate.Yaml.Tag
