import Mathlib.Data.List.Basic
import Mathlib.Data.List.TakeWhile
import ProposalGate.Text.Blank

/-!
# Parts of a text

The pieces of a text between the occurrences of a character are those of the standard library
(`splitAt_eq_splitOn`). Two texts with a separator between them have the pieces of both
(`splitAt_append_cons`), and a text is cut into two exactly if the character is in it once
(`splitAt_eq_pair_iff`). Cutting a text behind its longest beginning of some kind undoes putting a
character of another kind there (`takeWhile_append_cons`, `exists_eq_takeWhile_append`). What
follows a beginning and what precedes an ending are what is left when either is taken away
(`afterStart?_eq_some_iff`, `beforeEnd?_eq_some_iff`).
-/

namespace ProposalGate.Text

variable {sep c : Char} {cs before after piece : List Char} {p : Char → Bool}

/-! ## Pieces -/

/-- A separator ends a piece, and what is behind it is cut on its own. -/
theorem splitFrom_append_cons (piece before after : List Char) (hc : p c = true) :
    splitFrom p piece (before ++ c :: after) =
      splitFrom p piece before ++ splitFrom p [] after := by
  induction before generalizing piece with
  | nil => simp [splitFrom, hc]
  | cons d rest ih =>
    rw [List.cons_append, splitFrom, splitFrom]
    split
    · rw [ih, List.cons_append]
    · exact ih _

theorem splitFrom_eq (sep : Char) (piece cs : List Char) :
    splitFrom (· = sep) piece cs = cs.splitOnPPrepend (· == sep) piece := by
  induction cs generalizing piece with
  | nil => simp [splitFrom]
  | cons c rest ih =>
    rw [splitFrom]
    by_cases hc : c = sep
    · rw [if_pos (by simpa using hc), ih, List.splitOnPPrepend_cons_pos (by simp [hc])]
      rfl
    · rw [if_neg (by simpa using hc), ih, List.splitOnPPrepend_cons_neg (by simp [hc])]

/-- The pieces of a text are those that the standard library finds. -/
theorem splitAt_eq_splitOn (sep : Char) (cs : List Char) : splitAt sep cs = cs.splitOn sep :=
  splitFrom_eq sep [] cs

/-- Two texts with the separator between them have the pieces of both. -/
theorem splitAt_append_cons (before after : List Char) :
    splitAt sep (before ++ sep :: after) = splitAt sep before ++ splitAt sep after :=
  splitFrom_append_cons [] before after (by simp)

/-- A text without the separator is one piece. -/
theorem splitAt_eq_singleton (h : sep ∉ cs) : splitAt sep cs = [cs] := by
  rw [splitAt_eq_splitOn, List.splitOn_eq_singleton h]

theorem splitAt_cons (c : Char) (cs : List Char) :
    splitAt sep (c :: cs) =
      if c = sep then [] :: splitAt sep cs else (splitAt sep cs).modifyHead (c :: ·) := by
  simp only [splitAt_eq_splitOn, List.splitOn_cons_eq_if_modifyHead, beq_iff_eq]

/-- The first piece ends where the character is for the first time. -/
theorem head?_splitAt (sep : Char) (cs : List Char) :
    (splitAt sep cs).head? = some (cs.takeWhile (· ≠ sep)) := by
  induction cs with
  | nil => rfl
  | cons c rest ih =>
    rw [splitAt_cons]
    split
    · next hc => simp [hc]
    · next hc => simp [List.head?_modifyHead, ih, hc]

/-- What is in a piece is in the text, and is not the character it was cut at. -/
theorem mem_of_mem_splitAt (hpiece : piece ∈ splitAt sep cs) (hc : c ∈ piece) :
    c ∈ cs ∧ c ≠ sep := by
  induction cs generalizing piece with
  | nil =>
    obtain rfl := List.mem_singleton.1 hpiece
    cases hc
  | cons d rest ih =>
    rw [splitAt_cons] at hpiece
    split at hpiece
    · rcases List.mem_cons.1 hpiece with rfl | hpiece
      · cases hc
      · exact (ih hpiece hc).imp_left (List.mem_cons_of_mem d)
    · next hd =>
      cases hrest : splitAt sep rest with
      | nil => simp [hrest] at hpiece
      | cons first others =>
        rw [hrest] at hpiece ih
        rcases List.mem_cons.1 hpiece with rfl | hpiece
        · rcases List.mem_cons.1 hc with rfl | hc
          · exact ⟨List.mem_cons_self, hd⟩
          · exact (ih List.mem_cons_self hc).imp_left (List.mem_cons_of_mem d)
        · exact (ih (List.mem_cons_of_mem _ hpiece) hc).imp_left (List.mem_cons_of_mem d)

/-- A text is cut into two exactly if the separator is in it once, between the two. -/
theorem splitAt_eq_pair_iff :
    splitAt sep cs = [before, after] ↔ sep ∉ before ∧ sep ∉ after ∧ cs = before ++ sep :: after := by
  constructor
  · intro h
    have hmem : before ∈ splitAt sep cs ∧ after ∈ splitAt sep cs := by simp [h]
    refine ⟨fun hsep => (mem_of_mem_splitAt hmem.1 hsep).2 rfl,
      fun hsep => (mem_of_mem_splitAt hmem.2 hsep).2 rfl, ?_⟩
    have hjoin : [sep].intercalate (cs.splitOn sep) = cs := List.intercalate_splitOn sep
    rw [← splitAt_eq_splitOn, h] at hjoin
    simpa using hjoin.symm
  · rintro ⟨hbefore, hafter, rfl⟩
    rw [splitAt_append_cons, splitAt_eq_singleton hbefore, splitAt_eq_singleton hafter]
    rfl

/-! ## Longest beginnings -/

/-- The longest beginning of some kind ends at the first character of another kind. -/
theorem takeWhile_append_cons (hbefore : ∀ c ∈ before, p c = true) (hc : p c = false) :
    (before ++ c :: after).takeWhile p = before := by
  rw [List.takeWhile_append_of_pos hbefore, List.takeWhile_cons_of_neg (by simp [hc]),
    List.append_nil]

/-- Behind the longest beginning of some kind is a character of another kind. -/
theorem exists_eq_takeWhile_append (h : cs.takeWhile p ≠ cs) :
    ∃ c after, p c = false ∧ cs = cs.takeWhile p ++ c :: after := by
  cases hdrop : cs.dropWhile p with
  | nil =>
    have hall := List.takeWhile_append_dropWhile (p := p) (l := cs)
    rw [hdrop, List.append_nil] at hall
    exact absurd hall h
  | cons c after =>
    have hhead := List.head?_dropWhile_not p cs
    rw [hdrop] at hhead
    refine ⟨c, after, by simpa using hhead, ?_⟩
    rw [← hdrop, List.takeWhile_append_dropWhile]

/-! ## Beginnings and endings -/

/-- What follows a beginning makes up the text together with it. -/
theorem afterStart?_eq_some_iff : afterStart? before cs = some after ↔ cs = before ++ after := by
  induction before generalizing cs with
  | nil => simp [afterStart?]
  | cons c start ih =>
    cases cs with
    | nil => simp [afterStart?]
    | cons d rest =>
      rw [afterStart?]
      split
      · next hc => simp [ih, hc]
      · next hc => simp [Ne.symm hc]

/-- What precedes an ending makes up the text together with it. -/
theorem beforeEnd?_eq_some_iff : beforeEnd? after cs = some before ↔ cs = before ++ after := by
  simp only [beforeEnd?, Option.map_eq_some_iff, afterStart?_eq_some_iff]
  constructor
  · rintro ⟨rest, hcs, rfl⟩
    rw [← List.reverse_reverse cs, hcs, List.reverse_append, List.reverse_reverse]
  · rintro rfl
    exact ⟨before.reverse, List.reverse_append, List.reverse_reverse before⟩

end ProposalGate.Text
