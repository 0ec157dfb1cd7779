import ProposalGate.Decimal.Number
import ProposalGate.Decimal.Shortest

/-!
# JSON values

The values of JSON texts. A part of a text may be well formed and still denote nothing: an escape
of half a character, a string of bytes that are no text, or a number beyond the largest. It is kept
as `malformed` where only the parts in use have to mean something.
-/

namespace ProposalGate.Json

open Decimal (Number)

/-- A value. -/
inductive Value where
  /-- no value -/
  | null
  /-- a truth value -/
  | bool (b : Bool)
  /-- a number -/
  | number (n : Number)
  /-- a text -/
  | text (s : String)
  /-- values in order -/
  | array (items : List Value)
  /-- names and their values, in order -/
  | object (members : List (String × Value))
  /-- a part that is well formed and denotes nothing -/
  | malformed
  deriving Inhabited

namespace Value

/-- The members of an object with a name, in order. -/
def members (v : Value) (name : String) : List Value :=
  match v with
  | .object ms => (ms.filter (·.1 = name)).map (·.2)
  | _ => []

/-- The value of a member; of several with one name the last. -/
def member? (v : Value) (name : String) : Option Value :=
  (v.members name).getLast?

/-- The value at the end of a path of names. -/
def at? (v : Value) (path : List String) : Option Value :=
  path.foldlM member? v

/-- The natural number a value is. -/
def natural? : Value → Option Nat
  | .number (.natural n) => some n
  | _ => none

/-- The text a value is. -/
def text? : Value → Option String
  | .text s => some s
  | _ => none

/-- The truth value a value is. -/
def bool? : Value → Option Bool
  | .bool b => some b
  | _ => none

/-- Whether a value is an object. -/
def isObject : Value → Bool
  | .object _ => true
  | _ => false

/-- Fractions are described without an exponent, however large or small. -/
def fractionLayout : Decimal.Layout := ⟨none, none⟩

/-- What a value is, in words. -/
def description : Value → String
  | .null => "null"
  | .bool b => if b then "boolean `true`" else "boolean `false`"
  | .number (.natural n) => s!"integer `{n}`"
  | .number (.negative n) => s!"integer `-{n}`"
  | .number (.fraction (.finite negative mantissa exponent)) =>
    s!"floating point `{fractionLayout.writeFinite negative mantissa exponent}`"
  | .number (.fraction _) | .malformed => "floating point"
  | .text _ => "string"
  | .array _ => "sequence"
  | .object _ => "map"

end Value

end ProposalGate.Json
