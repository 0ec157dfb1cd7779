/-!
# Hexadecimal bytes

Two digits per byte, letters in either case. Offsets count the bytes of the text, and a pair that
is not two digits is reported at the offset of its first byte.
-/

namespace ProposalGate.Hex

/-- Why bytes are not hexadecimal text. -/
inductive Fault where
  /-- the last byte would have one digit -/
  | odd
  /-- the pair at this offset is not two digits -/
  | pair (offset : Nat)
  deriving DecidableEq, Repr

/-- The wording of a fault. -/
def Fault.message : Fault → String
  | .odd => "odd number of hex digits"
  | .pair offset => s!"invalid hex at offset {offset}"

/-- The value of a digit. -/
def digit? (b : UInt8) : Option Nat :=
  let n := b.toNat
  if 48 ≤ n ∧ n ≤ 57 then some (n - 48)
  else if 97 ≤ n ∧ n ≤ 102 then some (n - 87)
  else if 65 ≤ n ∧ n ≤ 70 then some (n - 55)
  else none

/-- Reads pairs of digits, the first of them at the given offset. -/
def decodeFrom (offset : Nat) : List UInt8 → Except Fault (List UInt8)
  | a :: b :: rest =>
    match digit? a, digit? b with
    | some x, some y => (decodeFrom (offset + 2) rest).map (UInt8.ofNat (x * 16 + y) :: ·)
    | _, _ => .error (.pair offset)
  | _ => .ok []

/-- The bytes that hexadecimal text stands for. -/
def decode (bytes : List UInt8) : Except Fault (List UInt8) :=
  if bytes.length % 2 ≠ 0 then .error .odd else decodeFrom 0 bytes

end ProposalGate.Hex
