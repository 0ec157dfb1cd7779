import ProposalGate.Ascending
import ProposalGate.Identity

/-!
# Rosters

A roster is a set of identities. It is kept as its ascending list of members, so a set has one
representation, equality is equality of sets, and the members are always shown in one order.
`mem_insert` and `mem_ofList` say what the operations do to membership.
-/

namespace ProposalGate

namespace Identity

instance : LT Identity where
  lt i j := i.text < j.text

instance (i j : Identity) : Decidable (i < j) :=
  inferInstanceAs (Decidable (i.text < j.text))

/-- The order of identities is transitive. -/
theorem lt_trans {i j k : Identity} (h : i < j) (h' : j < k) : i < k :=
  String.lt_trans h h'

/-- Of two different identities one comes first. -/
theorem lt_of_not_lt {i j : Identity} (h : ¬ i < j) (hne : i ≠ j) : j < i := by
  refine String.not_le.1 fun hij => hne ?_
  cases i; cases j
  exact congrArg Identity.mk (String.le_antisymm hij (String.not_lt.1 h))

end Identity

/-- A set of identities. -/
structure Roster where
  /-- the members, in ascending order of their texts -/
  members : List Identity
  /-- no member comes before a smaller one or occurs twice -/
  ascending : members.Pairwise (· < ·)
  deriving DecidableEq, Repr

namespace Roster

instance : Membership Identity Roster where
  mem r i := i ∈ r.members

instance (i : Identity) (r : Roster) : Decidable (i ∈ r) :=
  inferInstanceAs (Decidable (i ∈ r.members))

/-- The roster without members. -/
def empty : Roster := ⟨[], List.Pairwise.nil⟩

instance : Inhabited Roster := ⟨empty⟩

/-- An identity put in its place keeps the members ascending. -/
theorem pairwise_place {i : Identity} {is : List Identity} (h : is.Pairwise (· < ·)) :
    (Ascending.place (· < ·) i is).Pairwise (· < ·) :=
  Ascending.pairwise_place (r := (· < ·)) (fun _ _ _ h h' => Identity.lt_trans h h')
    (fun _ _ h hne => Identity.lt_of_not_lt h hne) h

/-- The roster with one more member. -/
def insert (i : Identity) (r : Roster) : Roster :=
  ⟨Ascending.place (· < ·) i r.members, pairwise_place r.ascending⟩

/-- The roster of the identities in a list. -/
def ofList (is : List Identity) : Roster :=
  is.foldr insert empty

/-- Whether two rosters have a member in common. -/
def meets (r s : Roster) : Bool :=
  r.members.any fun i => decide (i ∈ s)

/-- Whether a roster has no members. -/
def isEmpty (r : Roster) : Bool :=
  r.members.isEmpty

@[simp] theorem mem_insert {i k : Identity} {r : Roster} : k ∈ r.insert i ↔ k = i ∨ k ∈ r :=
  Ascending.mem_place (r := (· < ·))

/-- Nobody is a member of the empty roster. -/
theorem not_mem_empty {i : Identity} : ¬ i ∈ empty :=
  List.not_mem_nil

@[simp] theorem mem_ofList {k : Identity} {is : List Identity} : k ∈ ofList is ↔ k ∈ is := by
  induction is with
  | nil => simp [ofList, not_mem_empty]
  | cons i rest ih =>
    change k ∈ (ofList rest).insert i ↔ _
    rw [mem_insert, ih, List.mem_cons]

end Roster

end ProposalGate
