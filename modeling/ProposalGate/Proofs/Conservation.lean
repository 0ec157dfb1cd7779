import Mathlib.Order.WithBot
import ProposalGate.Proofs.Decision
import ProposalGate.Proofs.Report

/-!
# What a decision keeps

A decision keeps everything that the reports say, in the order of their paths, and puts behind it
one approval gap for each accepted proposal nobody of whose authors approves, in the order of the
numbers (`Findings.Keeps`). What becomes of the pull request follows from these findings alone
(`Outcome.Follows`). Both together are `Decision.ofReports_keeps`.

More approvers can only close gaps (`Proposal.gaps_sublist`). They leave what the reports say as it
is, so a merge stays the same merge, and what is left alone stays left alone
(`Decision.ofReports_mono`).
-/

namespace ProposalGate

variable {approvers fewer more : Roster} {f : Findings} {p : Proposal} {v : Violation}
  {reports : List Report}

/-! ## Approval gaps -/

namespace Proposal

/-- Whether nobody of the authors of a proposal approves. -/
def isUnapproved (approvers : Roster) (p : Proposal) : Bool :=
  decide (∀ i ∈ p.authors.members, i ∉ approvers)

/-- The place of a proposal's number among others; no number comes before all numbers. -/
def place (p : Proposal) : WithBot ℕ :=
  match p.number? with
  | some n => WithBot.some n
  | none => ⊥

/-- **The approval gap of a proposal**, which has its number, or zero if there is none. -/
inductive Gap (p : Proposal) : Violation → Prop where
  /-- there are no authors who could approve -/
  | nobody : (∀ i, i ∉ p.authors) → Gap p (.noIdentifiableAuthors (p.number?.getD 0))
  /-- there are authors, who are all named in ascending order -/
  | missing {authors : List Identity} : authors ≠ [] → authors.Pairwise (· < ·) →
      (∀ i, i ∈ authors ↔ i ∈ p.authors) →
      Gap p (.missingAuthorApproval (p.number?.getD 0) authors)

theorem numberNotAfter_iff (p q : Proposal) :
    p.numberNotAfter q = true ↔ p.place ≤ q.place := by
  rw [numberNotAfter, place, place]
  rcases p.number? with _ | m
  · simp
  · rcases q.number? with _ | n <;> simp

theorem isUnapproved_iff :
    p.isUnapproved approvers = true ↔ ¬ ∃ i ∈ p.authors, i ∈ approvers := by
  simp only [isUnapproved, decide_eq_true_eq, not_exists, not_and]
  exact Iff.rfl

theorem meets_eq_false (h : p.isUnapproved approvers = true) :
    p.authors.meets approvers = false := by
  rw [← Bool.not_eq_true, Roster.meets_iff]
  exact isUnapproved_iff.1 h

theorem gap?_eq_none (h : ¬ p.isUnapproved approvers = true) : gap? approvers p = none := by
  rw [gap?_eq_none_iff]
  exact Decidable.of_not_not (mt isUnapproved_iff.2 h)

theorem isUnapproved_of_gap?_eq_some (h : gap? approvers p = some v) :
    p.isUnapproved approvers = true := by
  by_contra happroved
  rw [gap?_eq_none happroved] at h
  cases h

/-- An unapproved proposal has a gap. -/
theorem exists_gap (h : p.isUnapproved approvers = true) :
    ∃ v, gap? approvers p = some v ∧ p.Gap v := by
  have hmeets := meets_eq_false h
  rw [gap?]
  cases hmembers : p.authors.members with
  | nil =>
    have hempty : p.authors.isEmpty = true := by rw [Roster.isEmpty, hmembers]; rfl
    refine ⟨_, by simp [hempty], .nobody fun i hi => ?_⟩
    have hi : i ∈ p.authors.members := hi
    simp [hmembers] at hi
  | cons i rest =>
    have hempty : p.authors.isEmpty = false := by rw [Roster.isEmpty, hmembers]; rfl
    refine ⟨.missingAuthorApproval (p.number?.getD 0) p.authors.members, ?_,
      .missing (by simp [hmembers]) p.authors.ascending fun _ => Iff.rfl⟩
    simp [hempty, hmeets, hmembers]

/-- The gaps of some proposals are those of the unapproved ones among them, one for each. -/
theorem forall₂_gap (approvers : Roster) (proposals : List Proposal) :
    List.Forall₂ Gap (proposals.filter (isUnapproved approvers))
      (proposals.filterMap (gap? approvers)) := by
  induction proposals with
  | nil => exact .nil
  | cons p rest ih =>
    by_cases h : p.isUnapproved approvers = true
    · obtain ⟨v, hv, hgap⟩ := exists_gap h
      rw [List.filter_cons_of_pos h, List.filterMap_cons_some hv]
      exact .cons hgap ih
    · rwa [List.filter_cons_of_neg h, List.filterMap_cons_none (gap?_eq_none h)]

theorem sortedBy_mergeSort_numberNotAfter (proposals : List Proposal) :
    SortedBy place proposals (proposals.mergeSort numberNotAfter) :=
  sortedBy_mergeSort numberNotAfter_iff proposals

/-- A gap that is open although more people approve is open if fewer do, and the same. -/
theorem gap?_eq_some_of_subset (h : ∀ i ∈ fewer, i ∈ more) (hv : gap? more p = some v) :
    gap? fewer p = some v := by
  have hmore := isUnapproved_of_gap?_eq_some hv
  have hfewer : p.isUnapproved fewer = true := by
    rw [isUnapproved_iff] at hmore ⊢
    rintro ⟨i, hi, happroves⟩
    exact hmore ⟨i, hi, h i happroves⟩
  rwa [gap?, meets_eq_false hmore, ← meets_eq_false hfewer, ← gap?] at hv

/-- **More approvers close gaps** and open none; the order of the others stays. -/
theorem gaps_sublist (h : ∀ i ∈ fewer, i ∈ more) (proposals : List Proposal) :
    (gaps proposals more).Sublist (gaps proposals fewer) := by
  rw [gaps, gaps]
  induction proposals.mergeSort numberNotAfter with
  | nil => exact .slnil
  | cons p rest ih =>
    cases hmore : gap? more p with
    | some v =>
      rw [List.filterMap_cons_some hmore,
        List.filterMap_cons_some (gap?_eq_some_of_subset h hmore)]
      exact ih.cons_cons v
    | none =>
      rw [List.filterMap_cons_none hmore]
      cases hfewer : gap? fewer p with
      | some v =>
        rw [List.filterMap_cons_some hfewer]
        exact ih.cons v
      | none => rwa [List.filterMap_cons_none hfewer]

/-- A gap among those of some proposals is the gap of one of them. -/
theorem exists_gap_of_mem_gaps {proposals : List Proposal} (h : v ∈ gaps proposals approvers) :
    ∃ p ∈ proposals, p.isUnapproved approvers = true ∧ p.Gap v := by
  obtain ⟨p, hp, hv⟩ := List.mem_filterMap.1 h
  have hunapproved := isUnapproved_of_gap?_eq_some hv
  obtain ⟨w, hw, hgap⟩ := exists_gap hunapproved
  obtain rfl := Option.some.inj (hw.symm.trans hv)
  exact ⟨p, List.mem_mergeSort.1 hp, hunapproved, hgap⟩

end Proposal

/-! ## What is found and what becomes of it -/

/-- **Findings keep what some reports say**, given the reports in the order of their paths, the
unapproved proposals in the order of their numbers, and their gaps. -/
structure Findings.Keeps (reports : List Report) (approvers : Roster) (f : Findings)
    (ordered : List Report) (unapproved : List Proposal) (gaps : List Violation) : Prop where
  /-- reports are taken in the order of their paths -/
  sorted_path : SortedBy Report.path reports ordered
  /-- the accepted proposals are those of the reports -/
  accepted_eq : f.accepted = ordered.filterMap (·.verdict.proposal)
  /-- unapproved proposals are taken in the order of their numbers -/
  sorted_place : SortedBy Proposal.place (f.accepted.filter (·.isUnapproved approvers)) unapproved
  /-- each of them has its gap, and there are no other gaps -/
  forall₂_gap : List.Forall₂ Proposal.Gap unapproved gaps
  /-- the violations are those of the reports, and behind them the gaps -/
  violations_eq : f.violations = ordered.flatMap (·.verdict.violations) ++ gaps

/-- **What becomes of a pull request** follows from the findings. -/
inductive Outcome.Follows (f : Findings) : Outcome → Prop where
  /-- if nothing is wrong it is merged with the numbers of the accepted proposals -/
  | merge {numbers : List Nat} : f.violations = [] → numbers.Pairwise (· < ·) →
      (∀ n, n ∈ numbers ↔ ∃ p ∈ f.accepted, p.number? = some n) → Follows f (.merge numbers)
  /-- if something is wrong and no proposal was accepted then nothing is done -/
  | nothing : f.violations ≠ [] → f.accepted = [] → Follows f .nothing
  /-- if something is wrong and a proposal was accepted then all violations are reported -/
  | comment : f.violations ≠ [] → f.accepted ≠ [] → Follows f (.comment f.violations)

theorem Outcome.ofFindings_eq_iff {outcome : Outcome} :
    ofFindings f = outcome ↔ Follows f outcome := by
  constructor
  · rintro rfl
    rw [ofFindings]
    split
    · next hviolations =>
      exact .merge (List.isEmpty_iff.1 hviolations) (Proposal.pairwise_numbers _)
        fun _ => Proposal.mem_numbers
    · next hviolations =>
      split
      · next haccepted =>
        exact .nothing (mt List.isEmpty_iff.2 hviolations) (List.isEmpty_iff.1 haccepted)
      · next haccepted =>
        exact .comment (mt List.isEmpty_iff.2 hviolations) (mt List.isEmpty_iff.2 haccepted)
  · intro h
    cases h with
    | merge hviolations hnumbers hmem =>
      exact ofFindings_eq_merge_iff.2 ⟨hviolations, Proposal.numbers_eq_iff.2 ⟨hnumbers, hmem⟩⟩
    | nothing hviolations haccepted => simp [ofFindings, hviolations, haccepted]
    | comment hviolations haccepted => simp [ofFindings, hviolations, haccepted]

theorem Outcome.ofFindings_eq_nothing_iff :
    ofFindings f = .nothing ↔ f.violations ≠ [] ∧ f.accepted = [] := by
  rw [ofFindings_eq_iff]
  constructor
  · rintro (_ | ⟨hviolations, haccepted⟩ | _)
    exact ⟨hviolations, haccepted⟩
  · rintro ⟨hviolations, haccepted⟩
    exact .nothing hviolations haccepted

namespace Decision

theorem keeps_ofReports (reports : List Report) (approvers : Roster) :
    (ofReports reports approvers).findings.Keeps reports approvers (Report.ordered reports)
      (((Findings.ofReports reports).accepted.mergeSort Proposal.numberNotAfter).filter
        (·.isUnapproved approvers))
      (Proposal.gaps (Findings.ofReports reports).accepted approvers) where
  sorted_path := Report.sortedBy_ordered reports
  accepted_eq := rfl
  sorted_place := (Proposal.sortedBy_mergeSort_numberNotAfter _).filter _
  forall₂_gap := Proposal.forall₂_gap approvers _
  violations_eq := rfl

/-- **A decision keeps what the reports say.** Nothing is lost, added or put in another order except
by path, every unapproved proposal has its gap, the outcome follows from these findings, and reports
of different paths may come in any order. -/
theorem ofReports_keeps (reports : List Report) (approvers : Roster) :
    (∃ ordered unapproved gaps, (ofReports reports approvers).findings.Keeps reports approvers
      ordered unapproved gaps) ∧
    (∀ outcome, (ofReports reports approvers).outcome = outcome ↔
      Outcome.Follows (ofReports reports approvers).findings outcome) ∧
    ∀ reports' : List Report, reports.Perm reports' → (reports.map Report.path).Nodup →
      ofReports reports approvers = ofReports reports' approvers :=
  ⟨⟨_, _, _, keeps_ofReports reports approvers⟩, fun _ => Outcome.ofFindings_eq_iff,
    fun _ hperm hpaths => ofReports_eq_of_perm hperm hpaths⟩

/-- A draft by one author. -/
def draftBy (number : Nat) (author : String) : Proposal :=
  ⟨some number, some number, some "draft", .ofList [.ofLogin author], Proposal.numberText number⟩

/-- Reports that accept two drafts. -/
def draftReports : List Report := [
  ⟨"EIPS/eip-7.md", ⟨some (draftBy 7 "alice"), []⟩⟩,
  ⟨"EIPS/eip-8.md", ⟨some (draftBy 8 "bob"), []⟩⟩]

/-- The author of the first draft. -/
def firstAuthor : Roster := .ofList [.ofLogin "alice"]

/-- The authors of both. -/
def bothAuthors : Roster := .ofList [.ofLogin "alice", .ofLogin "bob"]

theorem ofReports_draftReports (approvers : Roster) : ofReports draftReports approvers =
    .ofFindings ⟨[draftBy 7 "alice", draftBy 8 "bob"],
      [draftBy 7 "alice", draftBy 8 "bob"].filterMap (Proposal.gap? approvers)⟩ := by
  have hordered : Report.ordered draftReports = draftReports :=
    List.mergeSort_of_pairwise (by decide +kernel)
  have hnumbers : [draftBy 7 "alice", draftBy 8 "bob"].mergeSort Proposal.numberNotAfter =
      [draftBy 7 "alice", draftBy 8 "bob"] :=
    List.mergeSort_of_pairwise (by decide +kernel)
  have hfound : Findings.ofReports draftReports = ⟨[draftBy 7 "alice", draftBy 8 "bob"], []⟩ := by
    rw [Findings.ofReports, hordered]
    rfl
  rw [ofReports, hfound, Findings.add, Proposal.gaps, hnumbers]
  rfl

/-- The gap of the draft whose author does not approve is reported, although its report came
first. -/
theorem ofReports_keeps_reverse :
    (ofReports draftReports.reverse firstAuthor).outcome =
      .comment [.missingAuthorApproval 8 [.ofLogin "bob"]] := by
  obtain ⟨-, -, horder⟩ := ofReports_keeps draftReports firstAuthor
  rw [← horder _ (List.reverse_perm _).symm (by decide +kernel), ofReports_draftReports]
  decide +kernel

/-- Who approves does not matter to whether anything is done. -/
theorem ofReports_outcome_eq_nothing_iff : (ofReports reports approvers).outcome = .nothing ↔
    (Findings.ofReports reports).violations ≠ [] ∧ (Findings.ofReports reports).accepted = [] := by
  refine Outcome.ofFindings_eq_nothing_iff.trans (and_congr_left fun haccepted => ?_)
  -- where no proposal was accepted there are no gaps
  have haccepted : (Findings.ofReports reports).accepted = [] := haccepted
  have hgaps : Proposal.gaps (Findings.ofReports reports).accepted approvers = [] := by
    simp [haccepted, Proposal.gaps]
  rw [Findings.add, hgaps, List.append_nil]

/-- **More approvers only close gaps.** The accepted proposals are the same, and the violations are
those in the reports and, of the gaps, those that are still open, in the same order. A merge stays
the same merge, and as much is left alone as before. -/
theorem ofReports_mono (h : ∀ i ∈ fewer, i ∈ more) (reports : List Report) :
    (ofReports reports more).findings.accepted = (ofReports reports fewer).findings.accepted ∧
    (ofReports reports more).findings.violations.Sublist
      (ofReports reports fewer).findings.violations ∧
    (∃ gaps gaps', gaps'.Sublist gaps ∧
      (ofReports reports fewer).findings.violations =
        (Findings.ofReports reports).violations ++ gaps ∧
      (ofReports reports more).findings.violations =
        (Findings.ofReports reports).violations ++ gaps' ∧
      ∀ v ∈ gaps, ∃ p ∈ (ofReports reports fewer).findings.accepted,
        p.isUnapproved fewer = true ∧ p.Gap v) ∧
    (∀ numbers, (ofReports reports fewer).outcome = .merge numbers →
      (ofReports reports more).outcome = .merge numbers) ∧
    ((ofReports reports more).outcome = .nothing ↔
      (ofReports reports fewer).outcome = .nothing) := by
  have hgaps := Proposal.gaps_sublist h (Findings.ofReports reports).accepted
  have hviolations : (ofReports reports more).findings.violations.Sublist
      (ofReports reports fewer).findings.violations := hgaps.append_left _
  refine ⟨rfl, hviolations, ⟨_, _, hgaps, rfl, rfl, fun v => Proposal.exists_gap_of_mem_gaps⟩,
    fun numbers hmerge => ?_, ?_⟩
  · obtain ⟨hclean, hnumbers⟩ := Outcome.ofFindings_eq_merge_iff.1 hmerge
    refine Outcome.ofFindings_eq_merge_iff.2 ⟨List.sublist_nil.1 ?_, hnumbers⟩
    rw [← hclean]
    exact hviolations
  · rw [ofReports_outcome_eq_nothing_iff, ofReports_outcome_eq_nothing_iff]

/-- A second approver closes the only gap, and both drafts are merged. -/
theorem ofReports_mono_draftReports :
    (∀ i ∈ firstAuthor, i ∈ bothAuthors) ∧
    (ofReports draftReports firstAuthor).findings.violations =
      [.missingAuthorApproval 8 [.ofLogin "bob"]] ∧
    (ofReports draftReports bothAuthors).findings.violations.Sublist
      [.missingAuthorApproval 8 [.ofLogin "bob"]] ∧
    (ofReports draftReports bothAuthors).outcome = .merge [7, 8] ∧
    (ofReports draftReports bothAuthors).outcome ≠ .nothing := by
  have hmore : ∀ i ∈ firstAuthor, i ∈ bothAuthors := by simp [firstAuthor, bothAuthors]
  have hviolations : (ofReports draftReports firstAuthor).findings.violations =
      [.missingAuthorApproval 8 [.ofLogin "bob"]] := by
    rw [ofReports_draftReports]
    decide +kernel
  obtain ⟨-, hsublist, -, -, hnothing⟩ := ofReports_mono hmore draftReports
  rw [hviolations] at hsublist
  refine ⟨hmore, hviolations, hsublist, ?_, mt hnothing.1 ?_⟩
  · rw [ofReports_draftReports]
    decide +kernel
  · rw [ofReports_draftReports]
    decide +kernel

end Decision

end ProposalGate
