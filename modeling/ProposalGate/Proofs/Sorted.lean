import Mathlib.Data.List.Basic
import Mathlib.Data.Prod.Lex

/-!
# Lists in the order of a key

Reports are taken in the order of their paths, proposals in that of their numbers and reviews in
that of their times. `SortedBy` says what the three have in common: nothing is added or lost, the
keys ascend, and elements of one key stay in the order they had. A merge sort does this
(`sortedBy_mergeSort`).

What comes last in such a list is then the greatest by its key and, of those with this key, by its
place in the list as it was (`SortedBy.find?_reverse_eq_some_iff`).
-/

namespace ProposalGate

variable {α κ : Type} {as sorted : List α} {a : α}

/-- **A list in the order of a key.** -/
structure SortedBy [LE κ] [DecidableEq κ] (key : α → κ) (as sorted : List α) : Prop where
  /-- the elements are the same -/
  perm : sorted.Perm as
  /-- no key comes before a smaller one -/
  ascending : sorted.Pairwise fun a b => key a ≤ key b
  /-- elements of one key keep their order -/
  stable : ∀ k, (sorted.filter fun a => key a = k) = as.filter fun a => key a = k

/-- A merge sort by a key puts a list in the order of the key. -/
theorem sortedBy_mergeSort [LE κ] [DecidableEq κ] [Std.IsLinearPreorder κ] {key : α → κ}
    {le : α → α → Bool} (hle : ∀ a b, le a b = true ↔ key a ≤ key b) (as : List α) :
    SortedBy key as (as.mergeSort le) := by
  have htrans : ∀ a b c, le a b = true → le b c = true → le a c = true := by
    intro a b c hab hbc
    exact (hle a c).2 (Std.le_trans ((hle a b).1 hab) ((hle b c).1 hbc))
  have htotal : ∀ a b, (le a b || le b a) = true := by
    intro a b
    rw [Bool.or_eq_true, hle, hle]
    exact Std.le_total
  have hperm : (as.mergeSort le).Perm as := List.mergeSort_perm as le
  refine ⟨hperm, (List.pairwise_mergeSort htrans htotal as).imp (hle _ _).1, fun k => ?_⟩
  -- what has the key `k` is in order already, so it is found in the same order afterwards
  have hsub : (as.filter fun a => key a = k).Sublist (as.mergeSort le) := by
    refine List.sublist_mergeSort htrans htotal ?_ List.filter_sublist
    refine List.pairwise_of_forall_mem_list fun a ha b hb => (hle a b).2 ?_
    obtain rfl := of_decide_eq_true (List.mem_filter.1 ha).2
    rw [of_decide_eq_true (List.mem_filter.1 hb).2]
    exact Std.le_refl _
  have hfilter := hsub.filter fun a => decide (key a = k)
  rw [List.filter_filter, List.filter_congr (q := fun a => decide (key a = k)) (by simp)] at hfilter
  exact (hfilter.eq_of_length (hperm.symm.filter _).length_eq).symm

namespace SortedBy

variable {key : α → κ} {p : α → Bool}

/-- Whatever is taken out of a list is missing from it in the order of the key. -/
theorem filter [LE κ] [DecidableEq κ] (h : SortedBy key as sorted) (p : α → Bool) :
    SortedBy key (as.filter p) (sorted.filter p) := by
  refine ⟨h.perm.filter p, h.ascending.filter p, fun k => ?_⟩
  have hstable := congrArg (List.filter p) (h.stable k)
  rwa [List.filter_comm, List.filter_comm p] at hstable

variable [LinearOrder κ]

/-- The last element with a property has the greatest key of all that have it. -/
theorem key_le (h : SortedBy key as sorted) (ha : sorted.reverse.find? p = some a) {b : α}
    (hb : b ∈ as) (hpb : p b = true) : key b ≤ key a := by
  obtain ⟨-, after, before, hsplit, hafter⟩ := List.find?_eq_some_iff_append.1 ha
  have hb : b ∈ after ++ a :: before := by
    rw [← hsplit]
    exact List.mem_reverse.2 (h.perm.symm.subset hb)
  have hdescending : (after ++ a :: before).Pairwise fun b c => key c ≤ key b := by
    rw [← hsplit]
    exact List.pairwise_reverse.2 h.ascending
  rcases List.mem_append.1 hb with hb | hb
  · exact absurd hpb (by simpa using hafter b hb)
  · rcases List.mem_cons.1 hb with rfl | hb
    · exact le_rfl
    · exact List.rel_of_pairwise_cons (List.pairwise_append.1 hdescending).2.1 hb

/-- Of the elements with its key, the last element with a property is the last one in the list as
it was, too. -/
theorem find?_reverse_and (h : SortedBy key as sorted) (ha : sorted.reverse.find? p = some a) :
    (as.reverse.find? fun b => key b = key a ∧ p b = true) = some a := by
  have hsame : (as.reverse.find? fun b => key b = key a ∧ p b = true) =
      sorted.reverse.find? fun b => key b = key a ∧ p b = true := by
    have hstable := congrArg (fun bs => bs.reverse.find? p) (h.stable (key a))
    simpa only [← List.filter_reverse, List.find?_filter, decide_eq_true_eq] using hstable.symm
  obtain ⟨hpa, after, before, hsplit, hafter⟩ := List.find?_eq_some_iff_append.1 ha
  rw [hsame, List.find?_eq_some_iff_append]
  refine ⟨by simp [hpa], after, before, hsplit, fun b hb => ?_⟩
  have hpb : p b = false := by simpa using hafter b hb
  simp [hpb]

theorem exists_greatest (h : SortedBy key as sorted) (ha : sorted.reverse.find? p = some a) :
    ∃ n : ℕ, as[n]? = some a ∧
      ∀ m b, as[m]? = some b → p b = true → toLex (key b, m) ≤ toLex (key a, n) := by
  obtain ⟨-, after, before, hsplit, hafter⟩ :=
    List.find?_eq_some_iff_append.1 (h.find?_reverse_and ha)
  have has : as = before.reverse ++ a :: after.reverse := by
    rw [← List.reverse_inj, hsplit]
    simp
  refine ⟨before.length, by simp [has], fun m b hm hpb => ?_⟩
  rw [Prod.Lex.toLex_le_toLex]
  rcases (h.key_le ha (List.mem_of_getElem? hm) hpb).lt_or_eq with hlt | heq
  · exact .inl hlt
  · refine .inr ⟨heq, Nat.le_of_not_lt fun (hlt : before.length < m) => ?_⟩
    -- an element that comes later has another key
    have hb : b ∈ after := by
      obtain ⟨i, rfl⟩ := Nat.exists_eq_add_of_lt hlt
      rw [has, Nat.add_assoc, List.getElem?_append_right (by simp)] at hm
      exact List.mem_reverse.1 (List.mem_of_getElem? (i := i) (by simpa using hm))
    simpa [heq, hpb] using hafter b hb

/-- **The last element with a property**, in the order of a key, is the one with the greatest key
and, of those with this key, the one with the greatest place in the list as it was. -/
theorem find?_reverse_eq_some_iff (h : SortedBy key as sorted) :
    sorted.reverse.find? p = some a ↔ p a = true ∧ ∃ n : ℕ, as[n]? = some a ∧
      ∀ m b, as[m]? = some b → p b = true → toLex (key b, m) ≤ toLex (key a, n) := by
  refine ⟨fun ha => ⟨List.find?_some ha, h.exists_greatest ha⟩, fun ⟨hpa, n, hn, hgreatest⟩ => ?_⟩
  have hmem : a ∈ sorted.reverse :=
    List.mem_reverse.2 (h.perm.symm.subset (List.mem_of_getElem? hn))
  obtain ⟨b, hb⟩ := Option.isSome_iff_exists.1 (List.find?_isSome.2 ⟨a, hmem, hpa⟩)
  obtain ⟨m, hm, hgreatest'⟩ := h.exists_greatest hb
  -- both are the greatest, so they are in one place
  have heq := le_antisymm (hgreatest m b hm (List.find?_some hb)) (hgreatest' n a hn hpa)
  obtain rfl : m = n := congrArg (fun k => (ofLex k).2) heq
  rw [hb, ← hm, hn]

end SortedBy

end ProposalGate
