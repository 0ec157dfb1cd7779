import Mathlib.Data.List.Basic
import ProposalGate.Yaml.Value

/-!
# Which values have a given text

Every kind of value but three has a text, so two different values may have one. A name
(`IsName`) is a text that begins with a letter, has no comma in it and is no truth value. No number
is written like that, and no list of more than one text: the only values with a name for their text
are the text itself and the sequences that hold it and otherwise only values without a text
(`text?_eq_some_iff`).
-/

namespace ProposalGate.Yaml

open Decimal (Layout Number Significant)

/-- Whether a text begins with a letter. -/
def startsWithLetter (s : String) : Bool :=
  s.toList.head?.any Char.isAlpha

/-! ## Numbers -/

/-- What begins with something else than a letter still does with more behind it. -/
theorem startsWithLetter_append {s t : String} (h : s ≠ "") :
    startsWithLetter (s ++ t) = startsWithLetter s := by
  have hne : s.toList ≠ [] := fun hnil => h (String.toList_inj.1 hnil)
  obtain ⟨c, rest, hs⟩ := List.exists_cons_of_ne_nil hne
  simp [startsWithLetter, String.toList_append, hs]

/-- The decimal digits of a number begin with a digit. -/
theorem toList_toString_nat (n : Nat) :
    ∃ c rest, (toString n).toList = c :: rest ∧ c.isAlpha = false := by
  have hdigits : (toString n).toList = Nat.toDigits 10 n := Nat.toList_repr
  obtain ⟨c, rest, hcons⟩ := List.exists_cons_of_ne_nil (Nat.toDigits_ne_nil (n := n) (b := 10))
  have hc : c.isDigit := Nat.isDigit_of_mem_toDigits (by decide) (by decide)
    (hcons ▸ List.mem_cons_self : c ∈ Nat.toDigits 10 n)
  refine ⟨c, rest, hdigits.trans hcons, Bool.eq_false_iff.2 fun hletter => ?_⟩
  -- all letters come after the digits
  obtain ⟨-, hdigit⟩ := Char.isDigit_iff_toNat.1 hc
  rcases Bool.or_eq_true_iff.1 hletter with hupper | hlower
  · have hbound := UInt32.le_iff_toNat_le.1 (of_decide_eq_true hupper).1
    exact absurd (Nat.le_trans hbound hdigit) (by decide)
  · have hbound := UInt32.le_iff_toNat_le.1 (of_decide_eq_true (Bool.and_eq_true_iff.1 hlower).1)
    exact absurd (Nat.le_trans hbound hdigit) (by decide)

section Digits

variable {digits : String} {c : Char} {rest : List Char}

theorem startsWithLetter_digits (hdigits : digits.toList = c :: rest) (hc : c.isAlpha = false) :
    startsWithLetter digits = false := by
  simp [startsWithLetter, hdigits, hc]

/-- Digits with a point among them do not begin with a letter. -/
theorem startsWithLetter_positional (hdigits : digits.toList = c :: rest)
    (hc : c.isAlpha = false) (place : Int) :
    startsWithLetter (Decimal.positional digits place) = false := by
  rw [Decimal.positional]
  split
  · rw [String.append_assoc, startsWithLetter_append (by decide)]
    decide
  · split
    · simp [startsWithLetter, String.toList_append, hdigits, hc]
    · -- before the point there are some of the digits, or none
      cases place.toNat with
      | zero =>
        rw [List.take_zero, String.append_assoc, String.ofList_nil, String.empty_append,
          startsWithLetter_append (by decide)]
        decide
      | succ k => simp [startsWithLetter, String.toList_append, hdigits, hc]

/-- Neither do digits with an exponent. -/
theorem startsWithLetter_exponential (hdigits : digits.toList = c :: rest)
    (hc : c.isAlpha = false) (place : Int) :
    startsWithLetter (Decimal.exponential digits place) = false := by
  rw [Decimal.exponential, hdigits]
  cases rest <;> simp [startsWithLetter, String.toList_append, hc]

end Digits

theorem startsWithLetter_write (layout : Layout) (s : Significant) :
    startsWithLetter (layout.write s) = false := by
  obtain ⟨c, rest, hdigits, hc⟩ := toList_toString_nat (s.normal 20).digits
  rw [Layout.write]
  split
  · exact startsWithLetter_positional hdigits hc _
  · exact startsWithLetter_exponential hdigits hc _

/-- A number never reads like a word. -/
theorem startsWithLetter_numberText (n : Number) : startsWithLetter (numberText n) = false := by
  cases n with
  | natural n =>
    obtain ⟨c, rest, hdigits, hc⟩ := toList_toString_nat n
    exact startsWithLetter_digits hdigits hc
  | negative n =>
    rw [numberText, startsWithLetter_append (by decide)]
    decide
  | fraction x =>
    cases x with
    | nan => decide
    | infinite negative => cases negative <;> decide
    | finite negative mantissa exponent =>
      rw [numberText, Layout.writeFinite]
      cases negative with
      | true =>
        split
        all_goals
          rw [startsWithLetter_append (by decide)]
          decide
      | false =>
        split
        · decide
        · simpa using startsWithLetter_write ..

/-! ## Names -/

/-- A text that begins with a letter, has no comma and is no truth value. -/
structure IsName (k : String) : Prop where
  /-- it begins with a letter -/
  letter : startsWithLetter k = true
  /-- it has no comma -/
  noComma : ',' ∉ k.toList
  /-- it is not the one truth value -/
  ne_true : k ≠ "true"
  /-- it is not the other -/
  ne_false : k ≠ "false"

/-- A list of texts is written as a name only if the name is all there is. -/
theorem IsName.intercalate_eq_iff {k : String} (hk : IsName k) {parts : List String} :
    ", ".intercalate parts = k ↔ parts = [k] := by
  rcases parts with _ | ⟨a, _ | ⟨b, rest⟩⟩
  · simp only [String.intercalate_nil, List.ne_cons_self, iff_false]
    rintro rfl
    exact absurd hk.letter (by decide)
  · simp
  -- between two texts there is a comma
  · simp only [String.intercalate_cons_cons, List.cons.injEq, reduceCtorEq, and_false, iff_false]
    rintro rfl
    exact hk.noComma (by simp [String.toList_append])

/-- **A name is the text of itself, and of the sequences that have no other text.** -/
theorem Value.text?_eq_some_iff {k : String} (hk : IsName k) {v : Value} :
    v.text? = some k ↔ v = .text k ∨ ∃ items, v = .sequence items ∧ Value.texts items = [k] := by
  cases v with
  | text s => simp [text?]
  | number n =>
    simp only [text?, Option.some.injEq, reduceCtorEq, false_and, exists_false, or_false, iff_false]
    rintro rfl
    exact absurd hk.letter (by simp [startsWithLetter_numberText])
  | bool b =>
    cases b with
    | true => simp [text?, hk.ne_true.symm]
    | false => simp [text?, hk.ne_false.symm]
  | sequence items => simp [text?, hk.intercalate_eq_iff]
  | null | mapping entries | tagged tag v => simp [text?]

end ProposalGate.Yaml
