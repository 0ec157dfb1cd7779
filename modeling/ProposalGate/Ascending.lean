/-!
# Ascending lists

A finite set over an ordered type is kept as the ascending list of its elements. `place` puts one
more element where it belongs; it keeps the list ascending (`pairwise_place`) and adds nothing
else (`mem_place`).
-/

namespace ProposalGate.Ascending

variable {α : Type} [DecidableEq α] (r : α → α → Prop) [DecidableRel r]

/-- A list with one more element, in front of the first that does not come before it; an element
that is met on the way is not added again. -/
def place (a : α) : List α → List α
  | [] => [a]
  | b :: rest =>
    if r a b then a :: b :: rest
    else if a = b then b :: rest
    else b :: place a rest

/-- The ascending list of the elements of a list. -/
def ofList (as : List α) : List α :=
  as.foldr (place r) []

variable {r}

@[simp] theorem mem_place {a b : α} {as : List α} : b ∈ place r a as ↔ b = a ∨ b ∈ as := by
  induction as with
  | nil => simp [place]
  | cons c rest ih =>
    simp only [place]
    split
    · simp
    · split
      · next h => subst h; simp
      · simp only [List.mem_cons, ih]
        exact or_left_comm

@[simp] theorem mem_ofList {a : α} {as : List α} : a ∈ ofList r as ↔ a ∈ as := by
  induction as with
  | nil => simp [ofList]
  | cons b rest ih =>
    change a ∈ place r b (ofList r rest) ↔ _
    rw [mem_place, ih, List.mem_cons]

/-- Putting an element in its place keeps a list ascending. -/
theorem pairwise_place (trans : ∀ a b c : α, r a b → r b c → r a c)
    (total : ∀ a b : α, ¬ r a b → a ≠ b → r b a) {a : α} {as : List α}
    (h : as.Pairwise r) : (place r a as).Pairwise r := by
  induction as with
  | nil => simp [place]
  | cons b rest ih =>
    obtain ⟨hb, hrest⟩ := List.pairwise_cons.1 h
    simp only [place]
    split
    · next hab =>
      refine List.pairwise_cons.2 ⟨fun c hc => ?_, h⟩
      rcases List.mem_cons.1 hc with rfl | hc
      · exact hab
      · exact trans a b c hab (hb c hc)
    · next hab =>
      split
      · exact h
      · next hne =>
        refine List.pairwise_cons.2 ⟨fun c hc => ?_, ih hrest⟩
        rcases mem_place.1 hc with rfl | hc
        · exact total _ b hab hne
        · exact hb c hc

/-- A list put in order element by element ascends, so it names no element twice. -/
theorem pairwise_ofList (trans : ∀ a b c : α, r a b → r b c → r a c)
    (total : ∀ a b : α, ¬ r a b → a ≠ b → r b a) (as : List α) :
    (ofList r as).Pairwise r := by
  induction as with
  | nil => exact List.Pairwise.nil
  | cons a rest ih => exact pairwise_place trans total ih

end ProposalGate.Ascending
