import ProposalGate.Decimal.Reading
import ProposalGate.Text.Blank
import ProposalGate.Yaml.Value

/-!
# Plain texts as values

A text without quotes may be a null, a truth value or a number. Integers are decimal, or
hexadecimal, octal or binary behind their sign; an integer of more than 64 bits is refused as long
as it fits 128. A number with a leading zero in front of other digits is a text.
-/

namespace ProposalGate.Yaml.Scalar

/-- Whether a text stands for no value. -/
def isNull (s : String) : Bool :=
  ["null", "Null", "NULL", "~"].contains s

/-- The truth value a text stands for. -/
def bool? (s : String) : Option Bool :=
  if ["true", "True", "TRUE"].contains s then some true
  else if ["false", "False", "FALSE"].contains s then some false
  else none

/-- Whether a text is all digits behind its sign, but begins with a zero in front of others. -/
def isZeroPadded (cs : List Char) : Bool :=
  let cs := if cs.head? = some '-' ∨ cs.head? = some '+' then cs.drop 1 else cs
  cs.length > 1 && cs.head? = some '0' && cs.all Decimal.isDigit

/-- The radixes with a mark of their own. -/
def radixes : List (List Char × Nat) :=
  [("0x".toList, 16), ("0o".toList, 8), ("0b".toList, 2)]

/-- The number behind one of the radix marks. -/
def marked? (limit : Nat) (cs : List Char) : Option Nat :=
  radixes.findSome? fun (mark, radix) => do
    let digits ← Text.afterStart? mark cs
    Decimal.below? radix limit digits

/-- The natural number a text denotes, if it is below `limit`. -/
def natural? (limit : Nat) (cs : List Char) : Option Nat :=
  let unsigned := if cs.head? = some '+' then cs.drop 1 else cs
  match marked? limit unsigned with
  | some n => some n
  | none => if isZeroPadded cs then none else Decimal.below? 10 limit unsigned

/-- The number `n` of the negative integer `-n` a text denotes, if `n` is below `limit`. -/
def negative? (limit : Nat) (cs : List Char) : Option Nat := do
  let digits ← Text.afterStart? ['-'] cs
  match marked? limit digits with
  | some n => some n
  | none => if isZeroPadded cs then none else Decimal.below? 10 limit digits

/-- What a text is as an integer. -/
inductive Integer where
  /-- an integer of 64 bits -/
  | fits (n : Decimal.Number)
  /-- an integer of more than 64 bits and not more than 128 -/
  | tooLarge
  /-- no integer -/
  | other

/-- The integer a text denotes. -/
def integer (cs : List Char) : Integer :=
  match natural? (Nat.pow 2 64) cs, negative? (Nat.pow 2 63 + 1) cs with
  | some n, _ => .fits (.natural n)
  | none, some 0 => .fits (.natural 0)
  | none, some n => .fits (.negative n)
  | none, none =>
    if (natural? (Nat.pow 2 128) cs).isSome || (negative? (Nat.pow 2 127 + 1) cs).isSome then
      .tooLarge
    else .other

/-- The binary fraction a text denotes: by name, or as a decimal fraction that is not too large. -/
def fraction? (s : String) : Option Decimal.Binary64 :=
  let cs := s.toList
  let unsigned := if cs.head? = some '+' then cs.drop 1 else cs
  let signedTwice := cs.head? = some '+' && unsigned.head?.any fun c => c = '+' || c = '-'
  if signedTwice then none
  else if [".inf", ".Inf", ".INF"].contains (String.ofList unsigned) then some (.infinite false)
  else if ["-.inf", "-.Inf", "-.INF"].contains s then some (.infinite true)
  else if [".nan", ".NaN", ".NAN"].contains s then some .nan
  else
    match Decimal.fraction? unsigned with
    | some (.finite negative mantissa exponent) => some (.finite negative mantissa exponent)
    | _ => none

/-- The value of a plain text, unless it is an integer of more than 64 bits. -/
def plain? (s : String) : Option Value :=
  if s.isEmpty || isNull s then some .null
  else
    match bool? s with
    | some b => some (.bool b)
    | none =>
      match integer s.toList with
      | .fits n => some (.number n)
      | .tooLarge => none
      | .other =>
        match if isZeroPadded s.toList then none else fraction? s with
        | some x => some (.number (.fraction x))
        | none => some (.text s)

end ProposalGate.Yaml.Scalar
