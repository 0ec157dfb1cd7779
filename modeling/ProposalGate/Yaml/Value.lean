import ProposalGate.Decimal.Number
import ProposalGate.Decimal.Shortest

/-!
# YAML values

The values a document can hold. Two values are the same key if they are of one kind and equal;
mappings are compared without regard to order. `Value.text?` is the text of a value in an
attribute: a sequence is its items joined with commas, and nulls, mappings and tagged values have
none.
-/

namespace ProposalGate.Yaml

open Decimal (Number)

/-- Fractions from `10 ^ 16` on and below `10 ^ -5` are written with an exponent. -/
def fractionLayout : Decimal.Layout := ⟨some 16, some (-4)⟩

/-- The text of a number. -/
def numberText : Number → String
  | .natural n => toString n
  | .negative n => "-" ++ toString n
  | .fraction .nan => ".nan"
  | .fraction (.infinite negative) => if negative then "-.inf" else ".inf"
  | .fraction (.finite negative mantissa exponent) =>
    fractionLayout.writeFinite negative mantissa exponent

/-- A value. -/
inductive Value where
  /-- no value -/
  | null
  /-- a truth value -/
  | bool (b : Bool)
  /-- a number -/
  | number (n : Number)
  /-- a text -/
  | text (s : String)
  /-- values in order -/
  | sequence (items : List Value)
  /-- keys and their values, in order -/
  | mapping (entries : List (Value × Value))
  /-- a value with a tag of its own -/
  | tagged (tag : String) (value : Value)

namespace Value

mutual

/-- Whether two values are one key. -/
def same : Value → Value → Bool
  | .null, .null => true
  | .bool a, .bool b => a == b
  | .number a, .number b => a.same b
  | .text a, .text b => a == b
  | .sequence as, .sequence bs => sameItems as bs
  | .mapping as, .mapping bs => as.length == bs.length && sameEntries as bs
  | .tagged s a, .tagged t b => s == t && a.same b
  | _, _ => false

/-- Whether two lists of values agree item by item. -/
def sameItems : List Value → List Value → Bool
  | [], [] => true
  | a :: as, b :: bs => a.same b && sameItems as bs
  | _, _ => false

/-- Whether every entry of the first list is also one of the second. -/
def sameEntries : List (Value × Value) → List (Value × Value) → Bool
  | [], _ => true
  | (k, v) :: as, bs => bs.any (fun e => k.same e.1 && v.same e.2) && sameEntries as bs

end

mutual

/-- The text of a value in an attribute, if it has one. -/
def text? : Value → Option String
  | .text s => some s
  | .number n => some (numberText n)
  | .bool b => some (if b then "true" else "false")
  | .sequence items => some (", ".intercalate (texts items))
  | .null | .mapping _ | .tagged _ _ => none

/-- The texts of those of some values that have one. -/
def texts : List Value → List String
  | [] => []
  | v :: rest => v.text?.toList ++ texts rest

end

end Value

end ProposalGate.Yaml
