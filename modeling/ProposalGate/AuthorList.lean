import ProposalGate.Text.Blank

/-!
# Author lists

An author list is free text in which every author is named by a group: a handle or a contact in
parentheses, or one in angle brackets. Groups do not nest; a bracket that is opened again before
it is closed is ordinary text. Everything outside the groups is ignored, and so are groups that
hold nothing but blanks.
-/

namespace ProposalGate.AuthorList

/-- What stands between here and the closing bracket, and what follows it; `none` if the bracket
is opened again before, or never closed. -/
def groupEnd? (opening closing : Char) : List Char → Option (List Char × List Char)
  | [] => none
  | c :: rest =>
    if c = closing then some ([], rest)
    else if c = opening then none
    else (groupEnd? opening closing rest).map fun (inner, after) => (c :: inner, after)

/-- A group at the very beginning of a text: what it holds and what follows it. -/
def group? : List Char → Option (List Char × List Char)
  | [] => none
  | c :: rest =>
    if c = '(' then groupEnd? '(' ')' rest
    else if c = '<' then groupEnd? '<' '>' rest
    else none

/-- What follows the end of a group is shorter than what it was looked for in. -/
theorem length_of_groupEnd? {opening closing : Char} {cs inner after : List Char}
    (h : groupEnd? opening closing cs = some (inner, after)) : after.length < cs.length := by
  induction cs generalizing inner with
  | nil => simp [groupEnd?] at h
  | cons c rest ih =>
    simp only [groupEnd?] at h
    split at h
    · simp only [Option.some.injEq, Prod.mk.injEq] at h
      simp [h.2]
    · split at h
      · exact absurd h (by simp)
      · obtain ⟨⟨inner', after'⟩, hrest, heq⟩ := Option.map_eq_some_iff.1 h
        simp only [Prod.mk.injEq] at heq
        have := ih (heq.2 ▸ hrest)
        simp only [List.length_cons]
        omega

/-- What follows a group is shorter than what began with it. -/
theorem length_of_group? {cs inner after : List Char} (h : group? cs = some (inner, after)) :
    after.length < cs.length := by
  cases cs with
  | nil => simp [group?] at h
  | cons c rest =>
    simp only [group?] at h
    have step {o l : Char} (h : groupEnd? o l rest = some (inner, after)) :
        after.length < (c :: rest).length :=
      Nat.lt_succ_of_lt (length_of_groupEnd? h)
    split at h
    · exact step h
    · split at h
      · exact step h
      · exact absurd h (by simp)

/-- The contents of the groups of a text, from left to right. -/
def groups (cs : List Char) : List (List Char) :=
  match _h : group? cs with
  | some (inner, after) => inner :: groups after
  | none =>
    match cs with
    | [] => []
    | _ :: rest => groups rest
termination_by cs.length
decreasing_by
  · exact length_of_group? ‹_›
  · simp

/-- The tokens of an author list: its groups without the blanks around them, empty ones left
out. -/
def tokens (list : String) : List String :=
  (((groups list.toList).map Text.trimmed).filter (!·.isEmpty)).map String.ofList

end ProposalGate.AuthorList
