import Mathlib.Data.List.Nodup
import ProposalGate.Decision
import ProposalGate.Proofs.Sorted

/-!
# The order of the reports

Reports come in the order in which the files were judged. A decision is made on them in the order of
their paths (`Report.sortedBy_ordered`), so if no path occurs twice then it does not matter in which
order they came (`Decision.ofReports_eq_of_perm`). Of several reports of one path those that came
first are taken first, and this is all that is left of their order.
-/

namespace ProposalGate

variable {reports reports' : List Report} {approvers : Roster}

namespace Report

theorem sortedBy_ordered (reports : List Report) : SortedBy path reports (ordered reports) :=
  sortedBy_mergeSort (fun _ _ => decide_eq_true_iff) reports

theorem ordered_perm (reports : List Report) : (ordered reports).Perm reports :=
  (sortedBy_ordered reports).perm

/-- Reports of different paths have one order. -/
theorem ordered_eq_of_perm (h : reports.Perm reports') (hpaths : (reports.map path).Nodup) :
    ordered reports = ordered reports' := by
  have hperm : (ordered reports).Perm (ordered reports') :=
    (ordered_perm reports).trans (h.trans (ordered_perm reports').symm)
  refine hperm.eq_of_pairwise ?_ (sortedBy_ordered reports).ascending
    (sortedBy_ordered reports').ascending
  intro a b ha hb hab hba
  -- two reports, neither of which comes after the other, have one path
  have ha' : a ∈ reports := (ordered_perm reports).mem_iff.1 ha
  have hb' : b ∈ reports := h.mem_iff.2 ((ordered_perm reports').mem_iff.1 hb)
  exact List.inj_on_of_nodup_map hpaths ha' hb' (String.le_antisymm hab hba)

end Report

/-- **The order in which files were judged does not matter** for the decision. -/
theorem Decision.ofReports_eq_of_perm (h : reports.Perm reports')
    (hpaths : (reports.map Report.path).Nodup) :
    ofReports reports approvers = ofReports reports' approvers := by
  rw [ofReports, ofReports, Findings.ofReports, Findings.ofReports,
    Report.ordered_eq_of_perm h hpaths]

end ProposalGate
