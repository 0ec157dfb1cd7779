import ProposalGate.Text.Utf8

/-!
# Text without escape sequences

A stream that is no terminal gets the text without its escape sequences, whoever put them there.
The bytes are followed through the states of a terminal: a text byte outside any sequence is kept,
and a blank inside a short sequence breaks it off. Control characters that are no blanks are
dropped everywhere.
-/

namespace ProposalGate.Console

/-- Where a terminal is in its input. -/
inductive Mode where
  /-- outside any sequence -/
  | text
  /-- behind an escape character -/
  | escape
  /-- behind an escape character and intermediate bytes -/
  | intermediate
  /-- in a control sequence -/
  | control
  /-- at the beginning of a device string -/
  | deviceEntry
  /-- in the parameters of a device string -/
  | deviceParameter
  /-- behind the intermediate bytes of a device string -/
  | deviceIntermediate
  /-- in the body of a device string, or in another string -/
  | body
  /-- in a command of the operating system -/
  | command
  deriving DecidableEq, Repr

/-- Whether a byte is a blank of the ASCII range other than the space. -/
def isControlBlank (b : UInt8) : Bool :=
  b = 9 || b = 10 || b = 12 || b = 13

/-- Whether a byte begins a character that is no ASCII character. -/
def isLead (b : UInt8) : Bool :=
  0xC2 ≤ b && b ≤ 0xF4

/-- Whether a byte lies between two others. -/
def between (b low high : UInt8) : Bool :=
  low ≤ b && b ≤ high

/-- What a byte behind an escape character leads to. -/
def afterEscape (b : UInt8) : Mode :=
  if between b 0x20 0x2F then .intermediate
  else if b = 0x5B then .control
  else if b = 0x5D then .command
  else if b = 0x50 then .deviceEntry
  else if b = 0x58 || b = 0x5E || b = 0x5F then .body
  else if between b 0x30 0x7E then .text
  else .escape

/-- What a byte leads to that is not kept and does not begin or break off a sequence. -/
def next (m : Mode) (b : UInt8) : Mode :=
  match m with
  | .text => .text
  | .escape => afterEscape b
  | .intermediate => if between b 0x30 0x7E then .text else .intermediate
  | .control => if between b 0x40 0x7E then .text else .control
  | .deviceEntry =>
    if between b 0x20 0x2F then .deviceIntermediate
    else if between b 0x30 0x3F then .deviceParameter
    else if between b 0x40 0x7E then .body
    else .deviceEntry
  | .deviceParameter =>
    if between b 0x20 0x2F then .deviceIntermediate
    else if between b 0x3C 0x7E then .body
    else .deviceParameter
  | .deviceIntermediate => if between b 0x30 0x7E then .body else .deviceIntermediate
  | .body => if b = 0x9C then .text else .body
  | .command => if b = 7 then .text else .command

/-- Whether a byte is kept that does not continue a character. -/
def isKept (m : Mode) (b : UInt8) : Bool :=
  match m with
  | .text => between b 0x20 0x7E || isControlBlank b || isLead b
  | .escape | .intermediate | .control => isControlBlank b
  | _ => false

/-- The bytes that are kept; `inside` tells whether the bytes before belong to a character that is
kept. -/
def keptFrom (m : Mode) (inside : Bool) : List UInt8 → List UInt8
  | [] => []
  | b :: rest =>
    if inside && Text.isContinuation b then b :: keptFrom m true rest
    else if b = 0x18 || b = 0x1A then keptFrom .text false rest
    else if b = 0x1B then keptFrom .escape false rest
    else if isKept m b then b :: keptFrom .text (isLead b) rest
    else keptFrom (next m b) false rest

/-- A text without its escape sequences. -/
def plain (s : String) : String :=
  String.ofList (Text.decodeLossy (keptFrom .text false (Text.utf8 s.toList)))

end ProposalGate.Console
