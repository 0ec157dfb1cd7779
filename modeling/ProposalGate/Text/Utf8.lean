/-!
# Characters and bytes

`utf8 cs` are the bytes of a text. `decodeLossy` reads bytes back: what is not the beginning of a
character is replaced, one replacement character for each longest run of bytes that begins some
character but does not finish it. It is total, and on the bytes of a text it is the inverse of
`utf8`.
-/

namespace ProposalGate.Text

/-- The bytes of a text. -/
def utf8 (cs : List Char) : List UInt8 :=
  cs.flatMap String.utf8EncodeChar

/-- The character that stands for bytes that are no text. -/
def replacement : Char := Char.ofNat 0xFFFD

/-- Whether a byte continues a character. -/
def isContinuation (b : UInt8) : Bool :=
  0x80 ≤ b.toNat && b.toNat ≤ 0xBF

/-- How many bytes a character takes that begins with this byte, if one can. -/
def leadWidth? (b : UInt8) : Option Nat :=
  if b.toNat < 0x80 then some 1
  else if b.toNat < 0xC2 then none
  else if b.toNat < 0xE0 then some 2
  else if b.toNat < 0xF0 then some 3
  else if b.toNat < 0xF5 then some 4
  else none

/-- Whether `second` may follow `lead`. The narrower ranges keep out overlong forms, surrogates
and points beyond the last character. -/
def mayFollow (lead second : UInt8) : Bool :=
  let n := second.toNat
  match lead.toNat with
  | 0xE0 => 0xA0 ≤ n && n ≤ 0xBF
  | 0xED => 0x80 ≤ n && n ≤ 0x9F
  | 0xF0 => 0x90 ≤ n && n ≤ 0xBF
  | 0xF4 => 0x80 ≤ n && n ≤ 0x8F
  | _ => isContinuation second

/-- The character of a two-byte sequence. -/
def char2 (a b : UInt8) : Char :=
  Char.ofNat (a.toNat % 32 * 64 + b.toNat % 64)

/-- The character of a three-byte sequence. -/
def char3 (a b c : UInt8) : Char :=
  Char.ofNat ((a.toNat % 16 * 64 + b.toNat % 64) * 64 + c.toNat % 64)

/-- The character of a four-byte sequence. -/
def char4 (a b c d : UInt8) : Char :=
  Char.ofNat (((a.toNat % 8 * 64 + b.toNat % 64) * 64 + c.toNat % 64) * 64 + d.toNat % 64)

/-- The text of some bytes, with a replacement character for each longest run that begins a
character without finishing it. -/
def decodeLossy : List UInt8 → List Char
  | [] => []
  | a :: rest =>
    match leadWidth? a with
    | none => replacement :: decodeLossy rest
    | some 1 => Char.ofNat a.toNat :: decodeLossy rest
    | some 2 =>
      match rest with
      | [] => [replacement]
      | b :: rest =>
        if isContinuation b then char2 a b :: decodeLossy rest
        else replacement :: decodeLossy (b :: rest)
    | some 3 =>
      match rest with
      | [] => [replacement]
      | b :: rest =>
        if mayFollow a b then
          match rest with
          | [] => [replacement]
          | c :: rest =>
            if isContinuation c then char3 a b c :: decodeLossy rest
            else replacement :: decodeLossy (c :: rest)
        else replacement :: decodeLossy (b :: rest)
    | some _ =>
      match rest with
      | [] => [replacement]
      | b :: rest =>
        if mayFollow a b then
          match rest with
          | [] => [replacement]
          | c :: rest =>
            if isContinuation c then
              match rest with
              | [] => [replacement]
              | d :: rest =>
                if isContinuation d then char4 a b c d :: decodeLossy rest
                else replacement :: decodeLossy (d :: rest)
            else replacement :: decodeLossy (c :: rest)
        else replacement :: decodeLossy (b :: rest)

/-- The text of some bytes, if they are exactly the bytes of a text. -/
def decode? (bytes : List UInt8) : Option (List Char) :=
  let cs := decodeLossy bytes
  if utf8 cs = bytes then some cs else none

end ProposalGate.Text
