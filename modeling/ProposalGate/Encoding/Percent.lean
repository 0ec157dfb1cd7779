import ProposalGate.Text.Blank
import ProposalGate.Text.Utf8

/-!
# Percent-encoding

A repository path is sent as one part of a URL: each of its segments is percent-encoded, the
slashes between them stay. A query value is form-encoded: a blank becomes a plus sign. Both keep a
small set of ASCII characters and write every other byte as `%` and two capital hexadecimal digits.
-/

namespace ProposalGate.Percent

/-- The capital hexadecimal digit of a number below 16. -/
def digit (n : Nat) : Char :=
  if n < 10 then Char.ofNat (48 + n) else Char.ofNat (55 + n)

/-- The three characters of an encoded byte. -/
def escape (b : UInt8) : List Char :=
  ['%', digit (b.toNat / 16), digit (b.toNat % 16)]

/-- Whether a byte is an ASCII letter or digit. -/
def isAlphanumeric (b : UInt8) : Bool :=
  let n := b.toNat
  (48 ≤ n && n ≤ 57) || (65 ≤ n && n ≤ 90) || (97 ≤ n && n ≤ 122)

/-- Whether a byte is never escaped: letters, digits, hyphen, full stop, underscore, tilde. -/
def isUnreserved (b : UInt8) : Bool :=
  isAlphanumeric b || b = 45 || b = 46 || b = 95 || b = 126

/-- A path segment with everything but unreserved characters escaped. -/
def segment (cs : List Char) : List Char :=
  (Text.utf8 cs).flatMap fun b => if isUnreserved b then [Char.ofNat b.toNat] else escape b

/-- A repository path with each segment escaped and the slashes kept. -/
def path (p : String) : String :=
  String.ofList (List.intercalate ['/'] ((Text.splitAt '/' p.toList).map segment))

/-- Whether a byte stands for itself in a form-encoded value. -/
def isFormPlain (b : UInt8) : Bool :=
  isAlphanumeric b || b = 42 || b = 45 || b = 46 || b = 95

/-- The form-encoded value of a query parameter. -/
def form (value : String) : String :=
  String.ofList ((Text.utf8 value.toList).flatMap fun b =>
    if b = 32 then ['+'] else if isFormPlain b then [Char.ofNat b.toNat] else escape b)

end ProposalGate.Percent
