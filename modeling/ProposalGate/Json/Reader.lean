import ProposalGate.Decimal.Binary64
import ProposalGate.Decimal.Natural
import ProposalGate.Json.Fault
import ProposalGate.Json.Value
import ProposalGate.Text.Utf8

/-!
# Reading JSON

A text is read as bytes, so that places are counted in bytes. There are two ways to read. A strict
reading wants every part to mean something and limits how deep arrays and objects are nested. A
lenient reading only wants the text to be well formed: parts that denote nothing are kept as such,
because nobody may look at them.
-/

namespace ProposalGate.Json

/-- How a text is read. -/
structure Rules where
  /-- how deep arrays and objects may be nested, if there is a limit -/
  depth : Option Nat
  /-- whether every part has to mean something -/
  strict : Bool

namespace Rules

/-- Every part has to mean something, and nesting is limited. -/
def exact : Rules := ⟨some 127, true⟩

/-- The text has to be well formed. -/
def lenient : Rules := ⟨none, false⟩

/-- The rules one level deeper, if there is one. -/
def deeper? (r : Rules) : Option Rules :=
  match r.depth with
  | none => some r
  | some 0 => none
  | some (n + 1) => some { r with depth := some n }

end Rules

/-- What stops a reading: a cause, the bytes not read yet, and whether the place is one byte
further, at the byte looked at and not taken. -/
structure Stop where
  /-- what is wrong -/
  cause : Cause
  /-- the bytes not read yet -/
  rest : List UInt8
  /-- whether the next byte is part of the place -/
  ahead : Bool

/-- A reading: a result and the bytes behind it. -/
abbrev Reading (α : Type) := Except Stop (α × List UInt8)

/-- Stops at a byte that was looked at. -/
def stopAt {α : Type} (cause : Cause) (rest : List UInt8) : Except Stop α :=
  .error ⟨cause, rest, true⟩

/-- Stops behind a byte that was taken. -/
def stopAfter {α : Type} (cause : Cause) (rest : List UInt8) : Except Stop α :=
  .error ⟨cause, rest, false⟩

/-- Whether a byte is a blank. -/
def isBlank (b : UInt8) : Bool :=
  b = 32 || b = 10 || b = 9 || b = 13

/-- The bytes behind blanks. -/
def skipBlanks (bs : List UInt8) : List UInt8 :=
  bs.dropWhile isBlank

/-- Whether a byte is a digit. -/
def isDigit (b : UInt8) : Bool :=
  48 ≤ b && b ≤ 57

/-- The number some digits denote. -/
def digitsValue (ds : List UInt8) : Nat :=
  ds.foldl (fun n d => n * 10 + (d.toNat - 48)) 0

/-! ## Words -/

/-- Reads the rest of a word. -/
def word (v : Value) : List UInt8 → List UInt8 → Reading Value
  | [], bs => .ok (v, bs)
  | _ :: _, [] => stopAfter .endInValue []
  | w :: ws, b :: rest =>
    if w = b then word v ws rest else stopAfter .expectedWord rest

/-! ## Numbers -/

/-- The parts of a number: its sign, the digits before and behind the point, and its exponent. -/
structure Parts where
  /-- whether there is a minus sign -/
  negative : Bool
  /-- the digits before the point -/
  whole : List UInt8
  /-- the digits behind the point -/
  part : List UInt8
  /-- the exponent -/
  exponent : Int
  /-- whether there is a point or an exponent -/
  fractional : Bool

/-- The largest exponent that is looked at. -/
def exponentLimit : Nat := Nat.pow 2 31

/-- Where the digits of an exponent become too many: behind the digit that makes it too large. -/
def exponentOverflow (acc : Nat) : List UInt8 → Option (List UInt8)
  | [] => none
  | b :: rest =>
    if isDigit b then
      let acc := acc * 10 + (b.toNat - 48)
      if exponentLimit ≤ acc then some rest else exponentOverflow acc rest
    else none

/-- The value of a number, whose last byte was before `rest`. A number that is too large means
nothing. -/
def numberValue (rules : Rules) (p : Parts) (rest : List UInt8) : Reading Value :=
  let n := digitsValue p.whole
  if !p.fractional && !p.negative && n < Nat.pow 2 64 then .ok (.number (.natural n), rest)
  else if !p.fractional && p.negative && 0 < n && n ≤ Nat.pow 2 63 then
    .ok (.number (.negative n), rest)
  else
    let significand := digitsValue (p.whole ++ p.part)
    let x := Decimal.Binary64.ofDecimal p.negative significand (p.exponent - p.part.length)
    match x with
    | .infinite _ =>
      if rules.strict then stopAfter .numberOutOfRange rest else .ok (.malformed, rest)
    | _ => .ok (.number (.fraction x), rest)

/-- Reads the exponent whose letter is already taken. -/
def exponent (rules : Rules) (p : Parts) (bs : List UInt8) : Reading Value :=
  let minus := bs.head? = some 45
  let bs := if minus || bs.head? = some 43 then bs.drop 1 else bs
  match bs with
  | [] => stopAfter .endInValue []
  | b :: rest =>
    if !isDigit b then stopAfter .invalidNumber rest
    else
      let ds := bs.takeWhile isDigit
      let after := bs.dropWhile isDigit
      let zero := digitsValue (p.whole ++ p.part) = 0
      match exponentOverflow 0 bs with
      | some tooFar =>
        if !zero && !minus then
          if rules.strict then stopAfter .numberOutOfRange tooFar else .ok (.malformed, after)
        else .ok (.number (.fraction (.finite p.negative 0 (-1074))), after)
      | none =>
        let e : Int := digitsValue ds
        numberValue rules { p with exponent := if minus then -e else e, fractional := true } after

/-- Reads what follows the digits before the point. -/
def fraction (rules : Rules) (p : Parts) (bs : List UInt8) : Reading Value :=
  match bs with
  | 46 :: rest =>
    let ds := rest.takeWhile isDigit
    let after := rest.dropWhile isDigit
    let p := { p with part := ds, fractional := true }
    if ds.isEmpty then
      if rest.isEmpty then stopAt .endInValue rest else stopAt .invalidNumber rest
    else
      match after with
      | b :: tail => if b = 101 || b = 69 then exponent rules p tail else numberValue rules p after
      | [] => numberValue rules p after
  | b :: rest => if b = 101 || b = 69 then exponent rules p rest else numberValue rules p bs
  | [] => numberValue rules p bs

/-- Reads the number whose sign is already taken. -/
def number (rules : Rules) (negative : Bool) (bs : List UInt8) : Reading Value :=
  match bs with
  | [] => stopAfter .endInValue []
  | 48 :: rest =>
    if rest.head?.any isDigit then stopAt .invalidNumber rest
    else fraction rules ⟨negative, [48], [], 0, false⟩ rest
  | b :: rest =>
    if isDigit b then
      fraction rules ⟨negative, bs.takeWhile isDigit, [], 0, false⟩ (bs.dropWhile isDigit)
    else stopAfter .invalidNumber rest

/-! ## Strings -/

/-- The value of a hexadecimal digit. -/
def hexDigit? (b : UInt8) : Option Nat :=
  Decimal.digit? 16 (Char.ofNat b.toNat)

/-- The code of the four digits of an escape. -/
def hexCode (bs : List UInt8) : Reading Nat :=
  match bs with
  | a :: b :: c :: d :: rest =>
    match hexDigit? a, hexDigit? b, hexDigit? c, hexDigit? d with
    | some a, some b, some c, some d => .ok (((a * 16 + b) * 16 + c) * 16 + d, rest)
    | _, _, _, _ => stopAfter .invalidEscape rest
  | _ => stopAfter .endInString []

/-- Whether a code is the first half of a character. -/
def isHighHalf (n : Nat) : Bool := 0xD800 ≤ n && n ≤ 0xDBFF

/-- Whether a code is the second half of a character. -/
def isLowHalf (n : Nat) : Bool := 0xDC00 ≤ n && n ≤ 0xDFFF

/-- Reads the second half of a character, which has to follow as another escape. -/
def lowHalf (high : Nat) (bs : List UInt8) : Reading Char :=
  match bs with
  | [] => stopAfter .endInString []
  | 92 :: 117 :: rest =>
    match hexCode rest with
    | .error e => .error e
    | .ok (low, rest) =>
      if isLowHalf low then
        .ok (Char.ofNat ((high - 0xD800) * 0x400 + (low - 0xDC00) + 0x10000), rest)
      else stopAfter .loneSurrogate rest
  | 92 :: [] => stopAfter .endInString []
  | 92 :: _ :: rest => stopAfter .unexpectedEndOfEscape rest
  | _ :: rest => stopAfter .unexpectedEndOfEscape rest

/-- The character of an escape whose backslash and letter are already taken; none if it is half a
character, which only a lenient reading lets pass. -/
def unicodeEscape (rules : Rules) (bs : List UInt8) : Reading (Option Char) :=
  match hexCode bs with
  | .error e => .error e
  | .ok (n, rest) =>
    if isLowHalf n then
      if rules.strict then stopAfter .loneSurrogate rest else .ok (none, rest)
    else if isHighHalf n then
      match lowHalf n rest with
      | .ok (c, rest) => .ok (some c, rest)
      | .error e => if rules.strict then .error e else .ok (none, rest)
    else .ok (some (Char.ofNat n), rest)

/-- The byte that a single letter behind a backslash stands for. -/
def simpleEscape? (b : UInt8) : Option UInt8 :=
  if b = 34 || b = 92 || b = 47 then some b
  else if b = 98 then some 8
  else if b = 102 then some 12
  else if b = 110 then some 10
  else if b = 114 then some 13
  else if b = 116 then some 9
  else none

/-- The string that some bytes are. Bytes that are no text denote nothing. -/
def stringOf (rules : Rules) (bytes rest : List UInt8) : Reading (Option String) :=
  match Text.decode? bytes with
  | some text => .ok (some (String.ofList text), rest)
  | none => if rules.strict then stopAfter .notText rest else .ok (none, rest)

/-- Reads a string whose opening quote is already taken. `bytes` are its bytes so far, last one
first, and `whole` is false once half a character was met. -/
def stringFrom (rules : Rules) : Nat → List UInt8 → Bool → List UInt8 → Reading (Option String)
  | 0, _, _, bs => stopAfter .endInString bs
  | fuel + 1, bytes, whole, bs =>
    match bs with
    | [] => stopAfter .endInString []
    | 34 :: rest => if whole then stringOf rules bytes.reverse rest else .ok (none, rest)
    | 92 :: [] => stopAfter .endInString []
    | 92 :: 117 :: rest =>
      match unicodeEscape rules rest with
      | .ok (some c, rest) => stringFrom rules fuel ((Text.utf8 [c]).reverse ++ bytes) whole rest
      | .ok (none, rest) => stringFrom rules fuel bytes false rest
      | .error e => .error e
    | 92 :: b :: rest =>
      match simpleEscape? b with
      | some byte => stringFrom rules fuel (byte :: bytes) whole rest
      | none => stopAfter .invalidEscape rest
    | b :: rest =>
      if b < 32 then stopAfter .controlCharacter rest
      else stringFrom rules fuel (b :: bytes) whole rest

/-- Reads a string whose opening quote is already taken; none if it holds half a character or what
is no text. -/
def string (rules : Rules) (bs : List UInt8) : Reading (Option String) :=
  stringFrom rules (bs.length + 1) [] true bs

/-! ## Values -/

/-- Reads the colon behind a name. -/
def colon (bs : List UInt8) : Except Stop (List UInt8) :=
  match skipBlanks bs with
  | 58 :: rest => .ok rest
  | [] => stopAt .endInObject []
  | rest => stopAt .expectedColon rest

/-- Moves to the next item of an array: the bytes before it, or none and the bytes behind the
closing bracket. -/
def nextItem (first : Bool) (bs : List UInt8) : Except Stop (Bool × List UInt8) :=
  match skipBlanks bs with
  | [] => stopAt .endInArray []
  | 93 :: rest => .ok (false, rest)
  | b :: rest =>
    if first then .ok (true, b :: rest)
    else if b = 44 then
      match skipBlanks rest with
      | [] => stopAt .endInValue []
      | 93 :: rest => stopAt .trailingComma (93 :: rest)
      | rest => .ok (true, rest)
    else stopAt .expectedArrayEnd (b :: rest)

/-- Moves to the next member of an object: the bytes behind the quote that opens its name, or none
and the bytes behind the closing brace. -/
def nextMember (first : Bool) (bs : List UInt8) : Except Stop (Bool × List UInt8) :=
  match skipBlanks bs with
  | [] => stopAt .endInObject []
  | 125 :: rest => .ok (false, rest)
  | b :: rest =>
    if first then if b = 34 then .ok (true, rest) else stopAt .keyNotString (b :: rest)
    else if b = 44 then
      match skipBlanks rest with
      | [] => stopAt .endInValue []
      | 34 :: rest => .ok (true, rest)
      | 125 :: rest => stopAt .trailingComma (125 :: rest)
      | rest => stopAt .keyNotString rest
    else stopAt .expectedObjectEnd (b :: rest)

mutual

/-- Reads a value. -/
def value : Nat → Rules → List UInt8 → Reading Value
  | 0, _, bs => stopAt .endInValue bs
  | fuel + 1, rules, bs =>
    match skipBlanks bs with
    | [] => stopAt .endInValue []
    | b :: rest =>
      if b = 110 then word .null [117, 108, 108] rest
      else if b = 116 then word (.bool true) [114, 117, 101] rest
      else if b = 102 then word (.bool false) [97, 108, 115, 101] rest
      else if b = 45 then number rules true rest
      else if isDigit b then number rules false (b :: rest)
      else if b = 34 then
        match string rules rest with
        | .ok (some s, rest) => .ok (.text s, rest)
        | .ok (none, rest) => .ok (.malformed, rest)
        | .error e => .error e
      else if b = 91 then
        match rules.deeper? with
        | some deeper => items fuel deeper true [] rest
        | none => stopAt .tooDeep (b :: rest)
      else if b = 123 then
        match rules.deeper? with
        | some deeper => members fuel deeper true [] true rest
        | none => stopAt .tooDeep (b :: rest)
      else stopAt .expectedValue (b :: rest)

/-- Reads the items of an array; `read` are those before, last one first. -/
def items : Nat → Rules → Bool → List Value → List UInt8 → Reading Value
  | 0, _, _, _, bs => stopAt .endInArray bs
  | fuel + 1, rules, first, read, bs =>
    match nextItem first bs with
    | .error e => .error e
    | .ok (false, rest) => .ok (.array read.reverse, rest)
    | .ok (true, rest) =>
      match value fuel rules rest with
      | .ok (v, rest) => items fuel rules false (v :: read) rest
      | .error e => .error e

/-- Reads the members of an object; `read` are those before, last one first, and `whole` is false
once a name was none. -/
def members :
    Nat → Rules → Bool → List (String × Value) → Bool → List UInt8 → Reading Value
  | 0, _, _, _, _, bs => stopAt .endInObject bs
  | fuel + 1, rules, first, read, whole, bs =>
    match nextMember first bs with
    | .error e => .error e
    | .ok (false, rest) => .ok (if whole then .object read.reverse else .malformed, rest)
    | .ok (true, rest) =>
      match string rules rest with
      | .error e => .error e
      | .ok (name, rest) =>
        match colon rest with
        | .error e => .error e
        | .ok rest =>
          match value fuel rules rest with
          | .ok (v, rest) =>
            members fuel rules false ((name.getD "", v) :: read) (whole && name.isSome) rest
          | .error e => .error e

end

/-- The value of a whole text. -/
def whole (rules : Rules) (bs : List UInt8) : Except Stop Value :=
  match value (2 * bs.length + 2) rules bs with
  | .error e => .error e
  | .ok (v, rest) =>
    match skipBlanks rest with
    | [] => .ok v
    | rest => stopAt .trailingCharacters rest

/-- The place of a stop in a text. -/
def Stop.fault (s : Stop) (text : List UInt8) : Fault :=
  let read := text.length - s.rest.length
  Fault.behind s.cause (text.take (if s.ahead then read + 1 else read))

/-- The value a text denotes, or the first thing wrong with it. -/
def read (text : List UInt8) : Except Fault Value :=
  match whole Rules.exact text with
  | .ok v => .ok v
  | .error s => .error (s.fault text)

/-- The value of a text of which only some parts will be looked at. -/
def skim? (text : List UInt8) : Option Value :=
  match whole Rules.lenient text with
  | .ok v => some v
  | .error _ => none

end ProposalGate.Json
