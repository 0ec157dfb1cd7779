import Mathlib.Algebra.GroupWithZero.Nat
import ProposalGate.Text.Blank

/-!
# Line feeds

A text has one piece more than line feeds (`length_pieces`), so it is one line exactly if it has none
(`pieces_eq_singleton_iff`). Texts that are put together have the line feeds of all of them; the
digits of a number have none.
-/

namespace ProposalGate.Text

/-- The number of line feeds in a text. -/
def feeds (s : String) : Nat :=
  s.toList.count '\n'

/-- The pieces of a text between its line feeds. -/
def pieces (s : String) : List String :=
  (s.toList.splitOn '\n').map String.ofList

/-! ## Counting -/

/-- Putting texts together adds and loses no line feed. -/
@[simp] theorem feeds_append (s t : String) : feeds (s ++ t) = feeds s + feeds t := by
  rw [feeds, String.toList_append, List.count_append, feeds, feeds]

/-- A text without line feeds is one that has none among its characters. -/
theorem feeds_eq_zero_iff {s : String} : feeds s = 0 ↔ '\n' ∉ s.toList :=
  List.count_eq_zero

theorem feeds_eq_zero {s : String} (h : '\n' ∉ s.toList) : feeds s = 0 :=
  feeds_eq_zero_iff.2 h

@[simp] theorem feeds_toString (s : String) : feeds (toString s) = feeds s :=
  rfl

/-- A number is written without line feeds. -/
@[simp] theorem feeds_toString_nat (n : Nat) : feeds (toString n) = 0 := by
  rw [feeds_eq_zero_iff, Nat.toString_eq_repr, Nat.toList_repr]
  intro hmem
  have hdigit : '\n'.isDigit = true :=
    Nat.isDigit_of_mem_toDigits (by decide) (by decide) hmem
  exact absurd hdigit (by decide)

/-- Separators without line feeds add none. -/
theorem feeds_intercalate {sep : String} (h : feeds sep = 0) (ss : List String) :
    feeds (sep.intercalate ss) = (ss.map feeds).sum := by
  induction ss with
  | nil => rfl
  | cons s rest ih =>
    cases rest with
    | nil => simp
    | cons s' rest =>
      rw [String.intercalate_cons_cons, feeds_append, feeds_append, h, Nat.add_zero, ih]
      rfl

/-! ## Pieces -/

theorem length_splitOn (cs : List Char) : (cs.splitOn '\n').length = cs.count '\n' + 1 := by
  induction cs with
  | nil => rfl
  | cons c rest ih =>
    rw [List.splitOn_cons_eq_if_modifyHead, List.count_cons]
    split
    · rw [List.length_cons, ih]
    · rw [List.length_modifyHead, ih, Nat.add_zero]

/-- A text has one piece more than line feeds. -/
theorem length_pieces (s : String) : (pieces s).length = feeds s + 1 := by
  rw [pieces, List.length_map, length_splitOn, feeds]

/-- A text is a single line exactly if there is no line feed in it. -/
theorem pieces_eq_singleton_iff {s : String} : pieces s = [s] ↔ feeds s = 0 := by
  constructor
  · intro h
    have hlength := length_pieces s
    rw [h, List.length_singleton] at hlength
    omega
  · intro h
    rw [pieces, List.splitOn_eq_singleton (feeds_eq_zero_iff.1 h), List.map_singleton,
      String.ofList_toList]

/-- A line feed between two texts keeps their lines apart. -/
theorem pieces_append_feed (s t : String) : pieces (s ++ "\n" ++ t) = pieces s ++ pieces t := by
  have hsplit : (s ++ "\n" ++ t).toList = s.toList ++ '\n' :: t.toList := by simp
  rw [pieces, hsplit, List.splitOn_append_cons_self, List.map_append, pieces, pieces]

end ProposalGate.Text
