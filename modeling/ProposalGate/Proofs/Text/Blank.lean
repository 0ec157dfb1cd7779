import Mathlib.Data.List.TakeWhile
import ProposalGate.Text.Blank

/-!
# Trimming

Blanks around a text do not matter to its trimmed form (`trimmed_blanks_append`,
`trimmed_append_blanks`), and a text without a blank at either end is its own trimmed form
(`trimmed_eq_self`).
-/

namespace ProposalGate.Text

variable {p : Char → Bool} {before cs after : List Char}

theorem dropWhile_eq_self_of_head? (h : ∀ c, cs.head? = some c → p c = false) :
    cs.dropWhile p = cs := by
  cases cs with
  | nil => rfl
  | cons c rest => exact List.dropWhile_cons_of_neg (by simp [h c rfl])

/-- Blanks before a text do not matter. -/
theorem trimmed_blanks_append (h : ∀ c ∈ before, isBlank c = true) :
    trimmed (before ++ cs) = trimmed cs := by
  rw [trimmed, trimStart, List.dropWhile_append_of_pos h]
  rfl

/-- Blanks behind a text do not matter when its end is trimmed. -/
theorem trimEnd_append_blanks (h : ∀ c ∈ after, isBlank c = true) :
    trimEnd (cs ++ after) = trimEnd cs := by
  rw [trimEnd, List.reverse_append,
    List.dropWhile_append_of_pos fun c hc => h c (List.mem_reverse.1 hc)]
  rfl

/-- Blanks behind a text do not matter. -/
theorem trimmed_append_blanks (h : ∀ c ∈ after, isBlank c = true) :
    trimmed (cs ++ after) = trimmed cs := by
  rw [trimmed, trimmed, trimStart, trimStart, List.dropWhile_append]
  split
  · next hblank =>
    -- there is nothing but blanks
    have hafter : after.dropWhile isBlank = [] := by
      rw [← List.append_nil after, List.dropWhile_append_of_pos h]
      rfl
    rw [hafter, List.isEmpty_iff.1 hblank]
  · exact trimEnd_append_blanks h

/-- A text without a blank at either end is its own trimmed form. -/
theorem trimmed_eq_self (hhead : ∀ c, cs.head? = some c → isBlank c = false)
    (hlast : ∀ c, cs.getLast? = some c → isBlank c = false) : trimmed cs = cs := by
  have hstart : trimStart cs = cs := dropWhile_eq_self_of_head? hhead
  have hend : cs.reverse.dropWhile isBlank = cs.reverse := by
    rw [List.getLast?_eq_head?_reverse] at hlast
    exact dropWhile_eq_self_of_head? hlast
  rw [trimmed, hstart, trimEnd, hend, List.reverse_reverse]

/-- What was trimmed does not end in a blank. -/
theorem isBlank_of_getLast?_trimmed {c : Char} (h : (trimmed cs).getLast? = some c) :
    isBlank c = false := by
  rw [trimmed, trimEnd, List.getLast?_reverse] at h
  have hhead := List.head?_dropWhile_not isBlank (trimStart cs).reverse
  rwa [h] at hhead

/-- What does not begin with a blank keeps its beginning when its end is trimmed. -/
theorem trimEnd_cons {c : Char} (rest : List Char) (hc : isBlank c = false) :
    ∃ rest', trimEnd (c :: rest) = c :: rest' := by
  rw [trimEnd, List.reverse_cons, List.dropWhile_append]
  split
  · exact ⟨[], by simp [List.dropWhile_cons_of_neg, hc]⟩
  · exact ⟨_, List.reverse_concat ..⟩

/-- What does not begin with a blank keeps its beginning when it is trimmed. -/
theorem trimmed_cons {c : Char} (rest : List Char) (hc : isBlank c = false) :
    ∃ rest', trimmed (c :: rest) = c :: rest' := by
  rw [trimmed, trimStart, List.dropWhile_cons_of_neg (by simp [hc])]
  exact trimEnd_cons rest hc

/-- What was trimmed does not begin with a blank. -/
theorem isBlank_of_trimmed_eq_cons {c : Char} {rest : List Char}
    (h : trimmed cs = c :: rest) :
    isBlank c = false := by
  rw [trimmed] at h
  cases hstart : trimStart cs with
  | nil => simp [hstart, trimEnd] at h
  | cons d ds =>
    have hd := List.head?_dropWhile_not isBlank cs
    rw [← trimStart, hstart] at hd
    obtain ⟨rest', hrest'⟩ := trimEnd_cons ds hd
    rw [hstart, hrest'] at h
    rwa [← (List.cons.inj h).1]

/-- What was trimmed stays as it is when it is trimmed again. -/
theorem trimmed_trimmed (cs : List Char) : trimmed (trimmed cs) = trimmed cs := by
  refine trimmed_eq_self (fun c hc => ?_) fun c => isBlank_of_getLast?_trimmed
  obtain ⟨rest, hrest⟩ := List.head?_eq_some_iff.1 hc
  exact isBlank_of_trimmed_eq_cons hrest

/-- The trimmed form of a text is in the text. -/
theorem exists_eq_append_trimmed (cs : List Char) :
    ∃ before after, cs = before ++ trimmed cs ++ after := by
  obtain ⟨before, hbefore⟩ := List.dropWhile_suffix (l := cs) isBlank
  obtain ⟨after, hafter⟩ := List.dropWhile_suffix (l := (trimStart cs).reverse) isBlank
  have hstart : trimStart cs = trimmed cs ++ after.reverse := by
    rw [trimmed, trimEnd, ← List.reverse_append, hafter, List.reverse_reverse]
  refine ⟨before, after.reverse, ?_⟩
  rw [List.append_assoc, ← hstart]
  exact hbefore.symm

theorem mem_of_mem_trimmed {c : Char} (h : c ∈ trimmed cs) : c ∈ cs := by
  obtain ⟨before, after, hcs⟩ := exists_eq_append_trimmed cs
  rw [hcs]
  exact List.mem_append_left _ (List.mem_append_right _ h)

/-- Exactly what consists of blanks is trimmed away. -/
theorem trimmed_eq_nil_iff : trimmed cs = [] ↔ ∀ c ∈ cs, isBlank c = true := by
  rw [trimmed, trimEnd, List.reverse_eq_nil_iff, List.dropWhile_eq_nil_iff]
  constructor
  · intro h
    -- what is left at the start would begin with a blank
    have hstart : trimStart cs = [] := by
      cases hcs : trimStart cs with
      | nil => rfl
      | cons c rest =>
        have hhead := List.head?_dropWhile_not isBlank cs
        rw [← trimStart, hcs] at hhead
        have hc := h c (by simp [hcs])
        simp [hc] at hhead
    exact List.dropWhile_eq_nil_iff.1 hstart
  · intro h
    rw [trimStart, List.dropWhile_eq_nil_iff.2 h]
    simp

/-- What does not consist of blanks is not trimmed away. -/
theorem trimmed_ne_nil {s : String} (h : isBlankText s = false) : trimmed s.toList ≠ [] := by
  intro hnil
  obtain ⟨c, hc, hblank⟩ := List.all_eq_false.1 h
  exact hblank (trimmed_eq_nil_iff.1 hnil c hc)

/-! ## Texts -/

theorem toList_trim (s : String) : (trim s).toList = trimmed s.toList :=
  String.toList_ofList

theorem trim_trim (s : String) : trim (trim s) = trim s := by
  rw [trim, toList_trim, trimmed_trimmed, trim]

/-- The same for a text that is held as a string. -/
theorem trim_eq_empty_iff {s : String} : trim s = "" ↔ isBlankText s = true := by
  rw [trim, String.ofList_eq_empty_iff, trimmed_eq_nil_iff, isBlankText, List.all_eq_true]

/-- What neither begins nor ends with a blank is what is left when blanks are put around it. -/
theorem trim_surrounded {before s after : String} (hbefore : isBlankText before = true)
    (hafter : isBlankText after = true)
    (hhead : ∀ c, s.toList.head? = some c → isBlank c = false)
    (hlast : ∀ c, s.toList.getLast? = some c → isBlank c = false) :
    trim (before ++ s ++ after) = s := by
  rw [trim, String.toList_append, String.toList_append,
    trimmed_append_blanks (List.all_eq_true.1 hafter),
    trimmed_blanks_append (List.all_eq_true.1 hbefore), trimmed_eq_self hhead hlast,
    String.ofList_toList]

end ProposalGate.Text
