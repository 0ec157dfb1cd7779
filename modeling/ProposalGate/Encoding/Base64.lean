/-!
# Base64

The standard alphabet with canonical padding: characters come in fours, only the last four may be
padded, by at most two signs, and the bits that padding leaves over are zero. `decode` names the
first fault with its offset in bytes; a text whose length leaves one byte over is judged by that
byte first. `encode` is the form that `decode` reads.
-/

namespace ProposalGate.Base64

/-- Why bytes are not Base64. -/
inductive Fault where
  /-- a byte outside the alphabet, or padding where a symbol belongs -/
  | symbol (offset : Nat) (byte : UInt8)
  /-- a single symbol left over after the last four -/
  | length (bytes : Nat)
  /-- the last symbol has bits that no byte takes up -/
  | lastSymbol (offset : Nat) (byte : UInt8)
  /-- padding that does not complete the last four -/
  | padding
  deriving DecidableEq, Repr

/-- The wording of a fault. -/
def Fault.message : Fault → String
  | .symbol offset byte => s!"Invalid symbol {byte.toNat}, offset {offset}."
  | .length bytes => s!"Invalid input length: {bytes}"
  | .lastSymbol offset byte => s!"Invalid last symbol {byte.toNat}, offset {offset}."
  | .padding => "Invalid padding"

/-- The padding sign. -/
def pad : UInt8 := 61

/-- The number a symbol stands for. -/
def sextet? (b : UInt8) : Option Nat :=
  let n := b.toNat
  if 65 ≤ n ∧ n ≤ 90 then some (n - 65)
  else if 97 ≤ n ∧ n ≤ 122 then some (n - 71)
  else if 48 ≤ n ∧ n ≤ 57 then some (n + 4)
  else if n = 43 then some 62
  else if n = 47 then some 63
  else none

/-- The three bytes of four symbols. -/
def triple (a b c d : Nat) : List UInt8 :=
  [UInt8.ofNat (a * 4 + b / 16), UInt8.ofNat (b % 16 * 16 + c / 4), UInt8.ofNat (c % 4 * 64 + d)]

/-- What the last, possibly incomplete four symbols amount to. -/
structure Tail where
  /-- the symbols' numbers, in order -/
  sextets : List Nat
  /-- the last symbol -/
  last : UInt8
  /-- how many padding signs followed -/
  pads : Nat
  /-- where the first padding sign stood -/
  firstPad : Nat

/-- Reads the last symbols, at most four, from the `index`-th of them on; `start` is the offset of
the first. Padding may only stand in the third and fourth place and nothing may follow it. -/
def readTail (start index : Nat) (acc : Tail) : List UInt8 → Except Fault Tail
  | [] => .ok acc
  | b :: rest =>
    if b = pad then
      if index < 2 then .error (.symbol (start + index) b)
      else
        readTail start (index + 1)
          { acc with
            pads := acc.pads + 1
            firstPad := if acc.pads = 0 then start + index else acc.firstPad } rest
    else if 0 < acc.pads then .error (.symbol acc.firstPad pad)
    else
      match sextet? b with
      | none => .error (.symbol (start + index) b)
      | some v =>
        readTail start (index + 1) { acc with sextets := acc.sextets ++ [v], last := b } rest

/-- The bytes of the last symbols. -/
def decodeTail (start : Nat) (bytes : List UInt8) : Except Fault (List UInt8) :=
  if bytes.isEmpty then .ok []
  else
    match readTail start 0 ⟨[], 0, 0, 0⟩ bytes with
    | .error fault => .error fault
    | .ok tail =>
      let count := tail.sextets.length
      if count < 2 then .error (.length (start + count))
      else if (count + tail.pads) % 4 ≠ 0 then .error .padding
      else
        match tail.sextets with
        | [a, b] =>
          if b % 16 ≠ 0 then .error (.lastSymbol (start + 1) tail.last)
          else .ok [UInt8.ofNat (a * 4 + b / 16)]
        | [a, b, c] =>
          if c % 4 ≠ 0 then .error (.lastSymbol (start + 2) tail.last)
          else .ok [UInt8.ofNat (a * 4 + b / 16), UInt8.ofNat (b % 16 * 16 + c / 4)]
        | [a, b, c, d] => .ok (triple a b c d)
        | _ => .error .padding

/-- The first byte outside the alphabet, with its offset. -/
def firstForeign (offset : Nat) : List UInt8 → Option (Nat × UInt8)
  | [] => none
  | b :: rest => if (sextet? b).isNone then some (offset, b) else firstForeign (offset + 1) rest

/-- Decodes four symbols at a time while more than four bytes follow, then the tail. -/
def decodeFrom (start : Nat) : List UInt8 → Except Fault (List UInt8)
  | a :: b :: c :: d :: e :: rest =>
    match sextet? a, sextet? b, sextet? c, sextet? d with
    | some a, some b, some c, some d =>
      (decodeFrom (start + 4) (e :: rest)).map (triple a b c d ++ ·)
    | _, _, _, _ =>
      match firstForeign start [a, b, c, d] with
      | some (offset, byte) => .error (.symbol offset byte)
      | none => .error .padding
  | bytes => decodeTail start bytes

/-- The bytes that Base64 text stands for. -/
def decode (bytes : List UInt8) : Except Fault (List UInt8) :=
  match bytes.getLast? with
  | some b =>
    if bytes.length % 4 = 1 ∧ b ≠ pad ∧ (sextet? b).isNone then
      .error (.symbol (bytes.length - 1) b)
    else decodeFrom 0 bytes
  | none => .ok []

/-- The symbol of a number below 64. -/
def symbol (n : Nat) : UInt8 :=
  if n < 26 then UInt8.ofNat (n + 65)
  else if n < 52 then UInt8.ofNat (n + 71)
  else if n < 62 then UInt8.ofNat (n - 4)
  else if n = 62 then 43
  else 47

/-- The padded Base64 form of some bytes. -/
def encode : List UInt8 → List UInt8
  | [] => []
  | [a] => [symbol (a.toNat / 4), symbol (a.toNat % 4 * 16), pad, pad]
  | [a, b] =>
    [symbol (a.toNat / 4), symbol (a.toNat % 4 * 16 + b.toNat / 16), symbol (b.toNat % 16 * 4), pad]
  | a :: b :: c :: rest =>
    symbol (a.toNat / 4) :: symbol (a.toNat % 4 * 16 + b.toNat / 16) ::
      symbol (b.toNat % 16 * 4 + c.toNat / 64) :: symbol (c.toNat % 64) :: encode rest

end ProposalGate.Base64
