import Mathlib.Data.List.Sort
import ProposalGate.Decision

/-!
# When a pull request is merged

A pull request is merged exactly if no report has a violation and every accepted proposal has an
author who approves (`Decision.ofReports_outcome_eq_merge_iff`). The numbers it is merged with are
those of the accepted proposals, ascending and each once; only one list is both, so the order of
the reports does not matter.
-/

namespace ProposalGate

variable {approvers : Roster} {f : Findings} {reports : List Report} {proposals : List Proposal}
  {numbers : List Nat}

/-- Two rosters meet in somebody who is on both. -/
theorem Roster.meets_iff {r s : Roster} : r.meets s ↔ ∃ i ∈ r, i ∈ s := by
  simp only [meets, List.any_eq_true, decide_eq_true_eq]
  exact Iff.rfl

namespace Proposal

/-- Nothing is missing exactly if an author approves; a proposal without authors is never
approved. -/
theorem gap?_eq_none_iff {p : Proposal} :
    gap? approvers p = none ↔ ∃ i ∈ p.authors, i ∈ approvers := by
  rw [← Roster.meets_iff]
  rw [gap?]
  cases hauthors : p.authors.isEmpty with
  | true =>
    have hmembers : p.authors.members = [] := by simpa [Roster.isEmpty] using hauthors
    simp [Roster.meets, hmembers]
  | false => cases p.authors.meets approvers <;> simp

/-- There is no gap exactly if every proposal has an author among the approvers. -/
theorem gaps_eq_nil_iff :
    gaps proposals approvers = [] ↔ ∀ p ∈ proposals, ∃ i ∈ p.authors, i ∈ approvers := by
  simp only [gaps, List.filterMap_eq_nil_iff, List.mem_mergeSort, gap?_eq_none_iff]

theorem pairwise_numbers (proposals : List Proposal) :
    (Proposal.numbers proposals).Pairwise (· < ·) :=
  Ascending.pairwise_ofList (r := (· < ·)) (fun _ _ _ => Nat.lt_trans)
    (fun _ _ h hne => Nat.lt_of_le_of_ne (Nat.le_of_not_lt h) hne.symm) _

/-- The numbers are those of the proposals that have one. -/
theorem mem_numbers {n : Nat} :
    n ∈ Proposal.numbers proposals ↔ ∃ p ∈ proposals, p.number? = some n := by
  simp [Proposal.numbers]

/-- An ascending list of these numbers is the list of these numbers. -/
theorem numbers_eq_iff :
    Proposal.numbers proposals = numbers ↔
      numbers.Pairwise (· < ·) ∧ ∀ n, n ∈ numbers ↔ ∃ p ∈ proposals, p.number? = some n := by
  simp only [← mem_numbers]
  constructor
  · rintro rfl
    exact ⟨pairwise_numbers proposals, fun _ => Iff.rfl⟩
  · rintro ⟨hnumbers, hmem⟩
    exact (pairwise_numbers proposals).eq_of_mem_iff hnumbers fun n => (hmem n).symm

end Proposal

namespace Findings

/-- What is accepted is what some report judged to be a proposal. -/
theorem mem_accepted_ofReports {p : Proposal} :
    p ∈ (ofReports reports).accepted ↔ ∃ r ∈ reports, r.verdict.proposal = some p := by
  simp [ofReports, Report.ordered]

/-- Reports without violations are all that a decision without violations can have. -/
theorem violations_ofReports_eq_nil_iff :
    (ofReports reports).violations = [] ↔ ∀ r ∈ reports, r.verdict.violations = [] := by
  simp [ofReports, Report.ordered]

end Findings

theorem Outcome.ofFindings_eq_merge_iff :
    ofFindings f = .merge numbers ↔ f.violations = [] ∧ Proposal.numbers f.accepted = numbers := by
  rw [ofFindings]
  cases f.violations with
  | nil => simp
  | cons v vs => cases f.accepted.isEmpty <;> simp

/-- **A pull request is merged** exactly if nothing is wrong with any file and every accepted
proposal is approved by one of its authors. -/
theorem Decision.ofReports_outcome_eq_merge_iff :
    (ofReports reports approvers).outcome = .merge numbers ↔
      (∀ r ∈ reports, r.verdict.violations = []) ∧
        (∀ r ∈ reports, ∀ p, r.verdict.proposal = some p → ∃ i ∈ p.authors, i ∈ approvers) ∧
        numbers.Pairwise (· < ·) ∧
        ∀ n, n ∈ numbers ↔
          ∃ r ∈ reports, ∃ p, r.verdict.proposal = some p ∧ p.number? = some n := by
  simp only [ofReports, ofFindings, Outcome.ofFindings_eq_merge_iff, Findings.add,
    List.append_eq_nil_iff, Findings.violations_ofReports_eq_nil_iff, Proposal.gaps_eq_nil_iff,
    Proposal.numbers_eq_iff, Findings.mem_accepted_ofReports, and_assoc]
  -- what is left is to go from the accepted proposals back to the reports they come from
  refine and_congr Iff.rfl (and_congr ?_ (and_congr Iff.rfl (forall_congr' fun n => ?_)))
  · exact ⟨fun h r hr p hp => h p ⟨r, hr, hp⟩, fun h p ⟨r, hr, hp⟩ => h r hr p hp⟩
  · refine iff_congr Iff.rfl ⟨?_, ?_⟩
    · rintro ⟨p, ⟨r, hr, hp⟩, hn⟩
      exact ⟨r, hr, p, hp, hn⟩
    · rintro ⟨r, hr, p, hp, hn⟩
      exact ⟨p, ⟨r, hr, hp⟩, hn⟩

/-- Without reports nothing is wrong. -/
theorem Decision.ofReports_nil : ofReports [] approvers = ⟨⟨[], []⟩, .merge []⟩ := by
  have hfound : Findings.ofReports [] = ⟨[], []⟩ := by simp [Findings.ofReports, Report.ordered]
  have hgaps : Proposal.gaps [] approvers = [] := by simp [Proposal.gaps]
  rw [ofReports, hfound]
  simp only [hgaps]
  rfl

end ProposalGate
