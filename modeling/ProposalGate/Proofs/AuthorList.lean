import Mathlib.Data.List.Basic
import ProposalGate.Proofs.Identity

/-!
# Reading an author list

An author list is written entry by entry: a name, and behind it a handle or a contact in one of two
kinds of brackets (`Entry`). The name is without opening brackets and the group without brackets of
its own kind; closing brackets and brackets of the other kind may be anywhere. What is read from such
a list is what was written, trimmed.

Of a text that nobody wrote that way it can still be said that its tokens appear in it one after the
other (`Appear`), that none is empty and that there are no blanks around any (`tokens_render`).
-/

namespace ProposalGate.AuthorList

variable {cs before inner after : List Char} {parts : List (List Char)} {opens closes c : Char}

/-! ## Groups -/

/-- A group ends at the first closing bracket, if none of its kind is inside. -/
theorem groupEnd?_append (h : ∀ c ∈ inner, c ≠ opens ∧ c ≠ closes) :
    groupEnd? opens closes (inner ++ closes :: after) = some (inner, after) := by
  induction inner with
  | nil => simp [groupEnd?]
  | cons c rest ih =>
    obtain ⟨hc, hrest⟩ := List.forall_mem_cons.1 h
    rw [List.cons_append, groupEnd?, if_neg hc.2, if_neg hc.1, ih hrest]
    rfl

/-- What stands before the end of a group and what follows it are the whole. -/
theorem eq_append_of_groupEnd? (h : groupEnd? opens closes cs = some (inner, after)) :
    cs = inner ++ closes :: after := by
  induction cs generalizing inner with
  | nil => simp [groupEnd?] at h
  | cons c rest ih =>
    rw [groupEnd?] at h
    split at h
    · next hc =>
      obtain ⟨rfl, rfl⟩ := Prod.mk.inj (Option.some.inj h)
      rw [hc, List.nil_append]
    · split at h
      · cases h
      · obtain ⟨⟨inner', after'⟩, hrest, heq⟩ := Option.map_eq_some_iff.1 h
        obtain ⟨rfl, rfl⟩ := Prod.mk.inj heq
        rw [ih hrest, List.cons_append]

/-- No group begins where there is no opening bracket. -/
theorem group?_eq_none (hround : c ≠ '(') (hangle : c ≠ '<') : group? (c :: cs) = none := by
  rw [group?, if_neg hround, if_neg hangle]

/-- A group stands between two brackets. -/
theorem eq_append_of_group? (h : group? cs = some (inner, after)) :
    ∃ opens closes, cs = opens :: inner ++ closes :: after := by
  cases cs with
  | nil => cases h
  | cons c rest =>
    rw [group?] at h
    split at h
    · exact ⟨c, ')', by rw [eq_append_of_groupEnd? h, List.cons_append]⟩
    · split at h
      · exact ⟨c, '>', by rw [eq_append_of_groupEnd? h, List.cons_append]⟩
      · cases h

/-- Where a group begins, it comes first, and the others are in what follows its end. -/
theorem groups_of_group? (h : group? cs = some (inner, after)) :
    groups cs = inner :: groups after := by
  rw [groups.eq_def]
  split
  · next hgroup =>
    obtain ⟨rfl, rfl⟩ := Prod.mk.inj (Option.some.inj (hgroup.symm.trans h))
    rfl
  · next hgroup => cases hgroup.symm.trans h

theorem groups_nil : groups [] = [] := by
  rw [groups.eq_def]
  rfl

/-- Where none begins, the groups are those of what follows. -/
theorem groups_cons (h : group? (c :: cs) = none) : groups (c :: cs) = groups cs := by
  rw [groups.eq_def]
  split
  · next hgroup => cases h.symm.trans hgroup
  · rfl

/-- Text without opening brackets is passed over. -/
theorem groups_append (h : ∀ c ∈ before, c ≠ '(' ∧ c ≠ '<') :
    groups (before ++ cs) = groups cs := by
  induction before with
  | nil => rfl
  | cons c rest ih =>
    obtain ⟨hc, hrest⟩ := List.forall_mem_cons.1 h
    rw [List.cons_append, groups_cons (group?_eq_none hc.1 hc.2), ih hrest]

/-! ## Entries -/

/-- The two kinds of brackets. -/
inductive Bracket where
  /-- parentheses -/
  | round
  /-- angle brackets -/
  | angle
  deriving DecidableEq, Repr

/-- The bracket that begins a group. -/
def Bracket.opening : Bracket → Char
  | .round => '('
  | .angle => '<'

/-- The bracket that ends a group. -/
def Bracket.closing : Bracket → Char
  | .round => ')'
  | .angle => '>'

/-- An author, as an author list names one. -/
structure Entry where
  /-- the name to show -/
  name : String
  /-- how the group is written -/
  bracket : Bracket
  /-- the handle or contact in the group -/
  token : String
  /-- no group begins in the name -/
  name_opening : ∀ c ∈ name.toList, c ≠ '(' ∧ c ≠ '<'
  /-- the group has no brackets of its own kind inside -/
  token_bracket : ∀ c ∈ token.toList, c ≠ bracket.opening ∧ c ≠ bracket.closing
  /-- somebody is named -/
  token_blank : Text.isBlankText token = false

/-- An entry as it is written. -/
def Entry.text (e : Entry) : String :=
  e.name ++ String.singleton e.bracket.opening ++ e.token ++ String.singleton e.bracket.closing

/-- An author list with some entries. -/
def render (entries : List Entry) : String :=
  ", ".intercalate (entries.map Entry.text)

theorem Entry.toList_text (e : Entry) : e.text.toList =
    e.name.toList ++ e.bracket.opening :: (e.token.toList ++ [e.bracket.closing]) := by
  simp [text]

theorem group?_opening (bracket : Bracket) (cs : List Char) :
    group? (bracket.opening :: cs) = groupEnd? bracket.opening bracket.closing cs := by
  cases bracket <;> rfl

/-- An entry has one group, its token, whatever follows it. -/
theorem groups_text_append (e : Entry) (cs : List Char) :
    groups (e.text.toList ++ cs) = e.token.toList :: groups cs := by
  have hgroup : group? (e.bracket.opening :: (e.token.toList ++ e.bracket.closing :: cs)) =
      some (e.token.toList, cs) := by
    rw [group?_opening, groupEnd?_append e.token_bracket]
  have hsplit : e.text.toList ++ cs =
      e.name.toList ++ e.bracket.opening :: (e.token.toList ++ e.bracket.closing :: cs) := by
    simp [e.toList_text]
  rw [hsplit, groups_append e.name_opening, groups_of_group? hgroup]

/-- The groups of a list are the tokens of its entries. -/
theorem groups_render (entries : List Entry) :
    groups (render entries).toList = entries.map (·.token.toList) := by
  have hseparator : ∀ c ∈ ", ".toList, c ≠ '(' ∧ c ≠ '<' := by simp
  rw [render, String.toList_intercalate, List.map_map]
  induction entries with
  | nil => exact groups_nil
  | cons e rest ih =>
    cases rest with
    | nil =>
      have hlast := groups_text_append e []
      rw [List.append_nil, groups_nil] at hlast
      rwa [List.map_singleton, List.intercalate_singleton]
    | cons e' rest =>
      rw [List.map_cons, List.map_cons, List.intercalate_cons_cons, List.append_assoc,
        Function.comp_apply, groups_text_append, groups_append hseparator, List.map_cons]
      exact congrArg _ ih

/-! ## Tokens -/

/-- Some parts appear in a text one after the other. -/
inductive Appear : List (List Char) → List Char → Prop where
  /-- no parts are in every text -/
  | nil {cs : List Char} : Appear [] cs
  /-- the first part is somewhere, and the others are in what follows it -/
  | cons {part before rest : List Char} {parts : List (List Char)} :
      Appear parts rest → Appear (part :: parts) (before ++ part ++ rest)

/-- What appears in a text appears in one with something before it. -/
theorem Appear.append (h : Appear parts cs) (before : List Char) : Appear parts (before ++ cs) := by
  cases h with
  | nil => exact .nil
  | cons hrest =>
    rw [← List.append_assoc, ← List.append_assoc]
    exact .cons hrest

/-- The groups of a text appear in it. -/
theorem appear_groups (cs : List Char) : Appear (groups cs) cs := by
  fun_induction groups cs with
  | case1 cs inner after hgroup ih =>
    obtain ⟨opens, closes, rfl⟩ := eq_append_of_group? hgroup
    have hfirst : Appear (inner :: groups after) ([opens] ++ inner ++ ([closes] ++ after)) :=
      .cons (ih.append [closes])
    exact hfirst
  | case2 => exact .nil
  | case3 c rest _ ih => exact ih.append [c]

/-- Parts still appear when they are trimmed. -/
theorem Appear.trimmed (h : Appear parts cs) : Appear (parts.map Text.trimmed) cs := by
  induction h with
  | nil => exact .nil
  | @cons part before rest _ _ ih =>
    obtain ⟨start, ending, hpart⟩ := Text.exists_eq_append_trimmed part
    have hcs : before ++ part ++ rest =
        before ++ start ++ Text.trimmed part ++ (ending ++ rest) := by
      conv_lhs => rw [hpart]
      simp only [List.append_assoc]
    rw [hcs]
    exact .cons (ih.append ending)

/-- Parts still appear when some are left out. -/
theorem Appear.filter (h : Appear parts cs) (p : List Char → Bool) :
    Appear (parts.filter p) cs := by
  induction h with
  | nil => exact .nil
  | @cons part _ _ _ _ ih =>
    rw [List.filter_cons]
    split
    · exact .cons ih
    · exact ih.append _

/-- So do its tokens, trimmed and without the empty ones. -/
theorem appear_tokens (list : String) : Appear ((tokens list).map String.toList) list.toList := by
  have hid : ∀ cs : List Char, (String.toList ∘ String.ofList) cs = cs := fun cs =>
    String.toList_ofList
  rw [tokens, List.map_map, List.map_id'' hid]
  exact (appear_groups list.toList).trimmed.filter _

/-- **Reading an author list undoes writing it.** Whatever the text, what is read from it is not
empty, has no blanks around it, and is there from left to right without overlaps. -/
theorem tokens_render (entries : List Entry) (list : String) :
    tokens (render entries) = entries.map (fun e => Text.trim e.token) ∧
      (∀ token ∈ tokens list, token ≠ "" ∧ Text.trim token = token) ∧
        Appear ((tokens list).map String.toList) list.toList := by
  refine ⟨?_, fun token htoken => ⟨?_, ?_⟩, appear_tokens list⟩
  · have hfilter : ((entries.map (·.token.toList)).map Text.trimmed).filter (!·.isEmpty) =
        (entries.map (·.token.toList)).map Text.trimmed := by
      refine List.filter_eq_self.2 fun cs hcs => ?_
      simp only [List.map_map, List.mem_map] at hcs
      obtain ⟨e, -, rfl⟩ := hcs
      simpa using Text.trimmed_ne_nil e.token_blank
    rw [tokens, groups_render, hfilter, List.map_map, List.map_map]
    rfl
  · obtain ⟨c, rest, htoken, -⟩ := toList_of_mem_tokens htoken
    rintro rfl
    cases htoken
  · rw [Text.trim, trimmed_of_mem_tokens htoken, String.ofList_toList]

/-- Two authors with brackets of the other kind in their groups, one of them without its partner. -/
def mixed : List Entry := [
  { name := "Alice) ", bracket := .round, token := " a<b> ", name_opening := by simp
    token_bracket := by simp [Bracket.opening, Bracket.closing], token_blank := by decide },
  { name := "> Bob", bracket := .angle, token := "(c", name_opening := by simp
    token_bracket := by simp [Bracket.opening, Bracket.closing], token_blank := by decide }]

/-- Both are read back, blanks apart, and the bracket of the second is in its token. -/
theorem tokens_render_mixed : tokens (render mixed) = ["a<b>", "(c"] ∧
    "(c" ∈ tokens (render mixed) ∧ Text.trim "(c" = "(c" := by
  obtain ⟨hread, hproper, -⟩ := tokens_render mixed (render mixed)
  have hwritten : mixed.map (fun e => Text.trim e.token) = ["a<b>", "(c"] := by decide +kernel
  have hmem : "(c" ∈ tokens (render mixed) := by
    rw [hread, hwritten]
    decide
  exact ⟨hread.trans hwritten, hmem, (hproper _ hmem).2⟩

end ProposalGate.AuthorList
