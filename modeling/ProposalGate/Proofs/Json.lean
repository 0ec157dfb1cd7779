import ProposalGate.Json.Reader
import ProposalGate.Proofs.Text.Utf8

/-!
# Strings and naturals in JSON texts

A string is read from the bytes of a text and from no others (`stringOf_eq_ok_some_iff`): neither
reading makes up characters for bytes that are none.

Whatever value is read, the naturals in it are below the word limit (`bounded_of_read`): a larger
number is read as a fraction. Every part of a reading yields bounded values if the parts it is made
of do (`Yields`), and the three readings that call each other do so with one step less left
(`yields_value`). What is bounded has bounded members (`Value.Bounded.at?`), so a natural found at
the end of a path fits into a word (`Value.Bounded.lt`).
-/

namespace ProposalGate.Json

variable {α : Type} {rules : Rules} {v : Value} {cause : Cause} {bs rest : List UInt8}

/-! ## Strings -/

/-- Bytes are read as a string exactly if they are those of a text. -/
theorem stringOf_eq_ok_some_iff {text : String} {after : List UInt8} :
    stringOf rules bs rest = .ok (some text, after) ↔
      bs = Text.utf8 text.toList ∧ rest = after := by
  rw [stringOf]
  cases hread : Text.decode? bs with
  | none =>
    have hbytes : bs ≠ Text.utf8 text.toList := fun h => by
      rw [Text.decode?_eq_some_iff.2 h] at hread
      cases hread
    cases rules.strict <;> simp [stopAfter, hbytes]
  | some cs =>
    have hbytes := Text.decode?_eq_some_iff.1 hread
    constructor
    · rintro ⟨⟩
      rw [String.toList_ofList]
      exact ⟨hbytes, rfl⟩
    · rintro ⟨htext, rfl⟩
      have hcs := (Text.decode?_eq_some_iff.2 htext).symm.trans hread
      obtain rfl := Option.some.inj hcs
      simp only [String.ofList_toList]

/-! ## Naturals -/

namespace Value

/-- Every natural in a value fits into a word. -/
inductive Bounded : Value → Prop where
  /-- nothing is in it -/
  | null : Bounded .null
  /-- a truth value is no number -/
  | bool (b : Bool) : Bounded (.bool b)
  /-- a natural is below the limit -/
  | natural {n : Nat} : n < Nat.pow 2 64 → Bounded (.number (.natural n))
  /-- a negative number is no natural -/
  | negative (n : Nat) : Bounded (.number (.negative n))
  /-- a fraction is no natural -/
  | fraction (x : Decimal.Binary64) : Bounded (.number (.fraction x))
  /-- a text is no number -/
  | text (s : String) : Bounded (.text s)
  /-- every item is bounded -/
  | array {items : List Value} : (∀ v ∈ items, Bounded v) → Bounded (.array items)
  /-- the value of every member is bounded -/
  | object {members : List (String × Value)} : (∀ m ∈ members, Bounded m.2) →
    Bounded (.object members)
  /-- it denotes nothing -/
  | malformed : Bounded .malformed

end Value

/-- Whatever is read has a property. -/
def Yields (P : α → Prop) (reading : Reading α) : Prop :=
  ∀ a rest, reading = .ok (a, rest) → P a

/-- A reading that succeeds yields its result. -/
theorem yields_ok {P : α → Prop} {a : α} (h : P a) : Yields P (.ok (a, rest)) := by
  rintro _ _ ⟨⟩
  exact h

/-- A reading that stops yields nothing. -/
theorem yields_error {P : α → Prop} (s : Stop) : Yields P (.error s) := by
  rintro _ _ ⟨⟩

theorem yields_stopAt {P : α → Prop} : Yields P (stopAt cause bs) :=
  yields_error _

theorem yields_stopAfter {P : α → Prop} : Yields P (stopAfter cause bs) :=
  yields_error _

/-- A reading that is one of two yields what both of them do. -/
theorem yields_ite {P : α → Prop} {c : Prop} [Decidable c] {first second : Reading α}
    (h : Yields P first) (h' : Yields P second) : Yields P (if c then first else second) := by
  split
  · exact h
  · exact h'

/-- The value that a word stands for is given beforehand. -/
theorem yields_word (h : v.Bounded) (expected : List UInt8) :
    Yields Value.Bounded (word v expected bs) := by
  induction expected generalizing bs with
  | nil => exact yields_ok h
  | cons w ws ih =>
    cases bs with
    | nil => exact yields_stopAfter
    | cons b rest =>
      rw [word]
      exact yields_ite ih yields_stopAfter

/-- A number is read as a natural only if it fits into a word. -/
theorem yields_numberValue (p : Parts) : Yields Value.Bounded (numberValue rules p rest) := by
  simp only [numberValue]
  split
  · next hnatural =>
    simp only [Bool.and_eq_true, decide_eq_true_eq] at hnatural
    exact yields_ok (.natural hnatural.2)
  · refine yields_ite (yields_ok (.negative _)) ?_
    split
    · exact yields_ite yields_stopAfter (yields_ok .malformed)
    · exact yields_ok (.fraction _)

/-- Whatever follows the letter of an exponent, there is no natural in it. -/
theorem yields_exponent (p : Parts) : Yields Value.Bounded (exponent rules p bs) := by
  simp only [exponent]
  split
  · exact yields_stopAfter
  · refine yields_ite yields_stopAfter ?_
    split
    · exact yields_ite (yields_ite yields_stopAfter (yields_ok .malformed))
        (yields_ok (.fraction _))
    · exact yields_numberValue _

theorem yields_fraction (p : Parts) : Yields Value.Bounded (fraction rules p bs) := by
  rw [fraction.eq_def]
  split
  · refine yields_ite (yields_ite yields_stopAt yields_stopAt) ?_
    split
    · exact yields_ite (yields_exponent _) (yields_numberValue _)
    · exact yields_numberValue _
  · exact yields_ite (yields_exponent _) (yields_numberValue _)
  · exact yields_numberValue _

/-- The value of a number is bounded, whatever its sign and its form. -/
theorem yields_number (negative : Bool) : Yields Value.Bounded (number rules negative bs) := by
  rw [number.eq_def]
  split
  · exact yields_stopAfter
  · exact yields_ite yields_stopAt (yields_fraction _)
  · exact yields_ite (yields_fraction _) yields_stopAfter

/-- The readings that call each other yield bounded values, if what was read before is bounded. -/
theorem yields_value (fuel : Nat) :
    (∀ rules bs, Yields Value.Bounded (value fuel rules bs)) ∧
    (∀ rules first read bs, (∀ v ∈ read, Value.Bounded v) →
      Yields Value.Bounded (items fuel rules first read bs)) ∧
    ∀ rules first read whole bs, (∀ m ∈ read, Value.Bounded m.2) →
      Yields Value.Bounded (members fuel rules first read whole bs) := by
  induction fuel with
  | zero =>
    refine ⟨fun rules bs => ?_, fun rules first read bs _ => ?_,
      fun rules first read whole bs _ => ?_⟩
    · rw [value]
      exact yields_stopAt
    · rw [items]
      exact yields_stopAt
    · rw [members]
      exact yields_stopAt
  | succ fuel ih =>
    obtain ⟨hvalue, hitems, hmembers⟩ := ih
    refine ⟨fun rules bs => ?_, fun rules first read bs hread => ?_,
      fun rules first read whole bs hread => ?_⟩
    · rw [value]
      split
      · exact yields_stopAt
      · refine yields_ite (yields_word .null _) ?_
        refine yields_ite (yields_word (.bool true) _) ?_
        refine yields_ite (yields_word (.bool false) _) ?_
        refine yields_ite (yields_number true) ?_
        refine yields_ite (yields_number false) ?_
        refine yields_ite ?_ (yields_ite ?_ (yields_ite ?_ yields_stopAt))
        · split
          · exact yields_ok (.text _)
          · exact yields_ok .malformed
          · exact yields_error _
        · split
          · exact hitems _ _ _ _ (List.forall_mem_nil _)
          · exact yields_stopAt
        · split
          · exact hmembers _ _ _ _ _ (List.forall_mem_nil _)
          · exact yields_stopAt
    · rw [items]
      split
      · exact yields_error _
      · exact yields_ok (.array (by simpa using hread))
      · split
        · next v rest hv =>
          exact hitems _ _ _ _ (List.forall_mem_cons.2 ⟨hvalue _ _ _ _ hv, hread⟩)
        · exact yields_error _
    · rw [members]
      split
      · exact yields_error _
      · refine yields_ok ?_
        split
        · exact .object (by simpa using hread)
        · exact .malformed
      · split
        · exact yields_error _
        · split
          · exact yields_error _
          · split
            · next v rest hv =>
              exact hmembers _ _ _ _ _ (List.forall_mem_cons.2 ⟨hvalue _ _ _ _ hv, hread⟩)
            · exact yields_error _

/-- Whatever value is read, the naturals in it fit into words. -/
theorem bounded_of_read (h : read bs = .ok v) : v.Bounded := by
  rw [read] at h
  split at h
  · next w hwhole =>
    obtain rfl := Except.ok.inj h
    rw [whole] at hwhole
    split at hwhole
    · cases hwhole
    · next hvalue =>
      split at hwhole
      · obtain rfl := Except.ok.inj hwhole
        exact (yields_value _).1 _ _ _ _ hvalue
      · cases hwhole
  · cases h

/-! ## Parts of a value -/

namespace Value

/-- The members of a bounded object are bounded. -/
theorem Bounded.member? {part : Value} {name : String} (h : v.Bounded)
    (hpart : v.member? name = some part) : part.Bounded := by
  have hmem : part ∈ v.members name := List.mem_of_getLast? hpart
  rw [members.eq_def] at hmem
  split at hmem
  · obtain ⟨m, hm, rfl⟩ := List.mem_map.1 hmem
    cases h with
    | object hmembers => exact hmembers m (List.mem_filter.1 hm).1
  · cases hmem

/-- Whatever is found at the end of a path in a bounded value is bounded. -/
theorem Bounded.at? {part : Value} {path : List String} (h : v.Bounded)
    (hpart : v.at? path = some part) : part.Bounded := by
  rw [Value.at?] at hpart
  induction path generalizing v with
  | nil =>
    obtain rfl := Option.some.inj hpart
    exact h
  | cons name path ih =>
    rw [List.foldlM_cons] at hpart
    obtain ⟨next, hnext, hrest⟩ := Option.bind_eq_some_iff.1 hpart
    exact ih (h.member? hnext) hrest

/-- Only a natural is read as one. -/
theorem natural?_eq_some_iff {n : Nat} : v.natural? = some n ↔ v = .number (.natural n) := by
  constructor
  · intro h
    rw [natural?.eq_def] at h
    split at h
    · rw [Option.some.inj h]
    · cases h
  · rintro rfl
    rfl

/-- A natural in a value fits into a word. -/
theorem Bounded.lt {n : Nat} (h : v.Bounded) (hn : v.natural? = some n) : n < Decimal.wordLimit := by
  obtain rfl := natural?_eq_some_iff.1 hn
  cases h with
  | natural hlt => exact hlt

end Value

end ProposalGate.Json
