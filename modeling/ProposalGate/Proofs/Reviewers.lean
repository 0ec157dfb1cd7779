import ProposalGate.Notice
import ProposalGate.Proofs.Account
import ProposalGate.Proofs.Conservation

/-!
# Who is asked for a review

Reviews are asked of accounts whose approval is missing. An approval is missing of all authors of a
proposal, if none of them approves (`Proposal.mem_missing_gap?_iff`), so who is asked follows from
the accepted proposals and the approvers, and from nothing else that may be wrong
(`reviewers_ofReports`). Nobody is asked who has approved, and neither is the author of the pull
request.
-/

namespace ProposalGate

variable {approving : Roster} {author login : String} {i : Identity} {v : Violation}
  {violations : List Violation} {proposals : List Proposal} {reports : List Report}

/-! ## The logins among some violations -/

namespace Notice

/-- **The logins are those of the accounts** whose approval is missing, except for the author's. -/
theorem mem_reviewers_iff : login ∈ reviewers violations author ↔
    (∃ v ∈ violations, .account login ∈ missingAuthors v) ∧
      Identity.account login ≠ .ofLogin author := by
  have hmissing (i : Identity) : i ∈ (Roster.ofList ((violations.flatMap missingAuthors).filter
      (· ≠ Identity.ofLogin author))).members ↔
        (∃ v ∈ violations, i ∈ missingAuthors v) ∧ i ≠ .ofLogin author := by
    refine Roster.mem_ofList.trans ?_
    simp
  simp only [reviewers, List.mem_filterMap, hmissing, Identity.login?_eq_some_iff]
  exact ⟨fun ⟨_, h, hi⟩ => hi ▸ h, fun h => ⟨_, h, rfl⟩⟩

/-- They come in order, each once. -/
theorem pairwise_reviewers (violations : List Violation) (author : String) :
    (reviewers violations author).Pairwise (· < ·) := by
  rw [reviewers]
  refine (Roster.ascending _).filterMap _ fun i j hij login hi other hj => ?_
  rw [Identity.login?_eq_some_iff] at hi hj
  rwa [hi, hj, Identity.account_lt_account] at hij

/-- What is wrong with a file names nobody. -/
theorem missingAuthors_eq_nil (h : v.gapNumber? = none) : missingAuthors v = [] := by
  cases v with
  | missingAuthorApproval => cases h
  | _ => rfl

end Notice

/-! ## The logins of a decision -/

/-- **The approval of an author is missing** exactly if no author approves. -/
theorem Proposal.mem_missing_gap?_iff {p : Proposal} :
    (∃ v, gap? approving p = some v ∧ i ∈ Notice.missingAuthors v) ↔
      i ∈ p.authors ∧ ∀ j ∈ p.authors, j ∉ approving := by
  constructor
  · rintro ⟨v, hv, hi⟩
    have hunapproved := isUnapproved_iff.1 (isUnapproved_of_gap?_eq_some hv)
    obtain ⟨w, hw, hgap⟩ := exists_gap (isUnapproved_of_gap?_eq_some hv)
    obtain rfl := Option.some.inj (hw.symm.trans hv)
    cases hgap with
    | nobody => cases hi
    | missing _ _ hauthors =>
      exact ⟨(hauthors i).1 hi, fun j hj happroves => hunapproved ⟨j, hj, happroves⟩⟩
  · rintro ⟨hi, hnone⟩
    have hunapproved : p.isUnapproved approving = true :=
      isUnapproved_iff.2 fun ⟨j, hj, happroves⟩ => hnone j hj happroves
    obtain ⟨v, hv, hgap⟩ := exists_gap hunapproved
    refine ⟨v, hv, ?_⟩
    cases hgap with
    | nobody hnobody => exact absurd hi (hnobody i)
    | missing _ _ hauthors => exact (hauthors i).2 hi

theorem Proposal.mem_missing_gaps_iff :
    (∃ v ∈ gaps proposals approving, i ∈ Notice.missingAuthors v) ↔
      ∃ p ∈ proposals, i ∈ p.authors ∧ ∀ j ∈ p.authors, j ∉ approving := by
  simp only [← mem_missing_gap?_iff, gaps, List.mem_filterMap, List.mem_mergeSort]
  constructor
  · rintro ⟨v, ⟨p, hp, hv⟩, hi⟩
    exact ⟨p, hp, v, hv, hi⟩
  · rintro ⟨p, hp, v, hv, hi⟩
    exact ⟨v, ⟨p, hp, hv⟩, hi⟩

/-- Whose approval a decision misses, if what is wrong with the files is no approval. -/
theorem Decision.mem_missing_iff
    (hfiles : ∀ r ∈ reports, ∀ v ∈ r.verdict.violations, v.gapNumber? = none) :
    (∃ v ∈ (ofReports reports approving).findings.violations, i ∈ Notice.missingAuthors v) ↔
      ∃ r ∈ reports, ∃ p, r.verdict.proposal = some p ∧ i ∈ p.authors ∧
        ∀ j ∈ p.authors, j ∉ approving := by
  have hfound : ∀ v ∈ (Findings.ofReports reports).violations, i ∉ Notice.missingAuthors v := by
    intro v hv
    obtain ⟨r, hr, hv⟩ := List.mem_flatMap.1 hv
    rw [Notice.missingAuthors_eq_nil (hfiles r (List.mem_mergeSort.1 hr) v hv)]
    exact List.not_mem_nil
  have hgaps : (∃ v ∈ (ofReports reports approving).findings.violations,
      i ∈ Notice.missingAuthors v) ↔
      ∃ v ∈ Proposal.gaps (Findings.ofReports reports).accepted approving,
        i ∈ Notice.missingAuthors v := by
    constructor
    · rintro ⟨v, hv, hi⟩
      rcases List.mem_append.1 hv with hv | hv
      · exact absurd hi (hfound v hv)
      · exact ⟨v, hv, hi⟩
    · rintro ⟨v, hv, hi⟩
      exact ⟨v, List.mem_append_right _ hv, hi⟩
  rw [hgaps, Proposal.mem_missing_gaps_iff]
  constructor
  · rintro ⟨p, hp, h⟩
    obtain ⟨r, hr, hp⟩ := Findings.mem_accepted_ofReports.1 hp
    exact ⟨r, hr, p, hp, h⟩
  · rintro ⟨r, hr, p, hp, h⟩
    exact ⟨p, Findings.mem_accepted_ofReports.2 ⟨r, hr, hp⟩, h⟩

/-- **Exactly the missing authors are asked for a review.** Let whatever is wrong with the files be
no missing approval. Then the logins to ask ascend, so none comes twice; they are those of the
authors of accepted proposals of which no author approves, except for the author of the pull
request; and so nobody is asked who approves, or who is that author. -/
theorem Decision.reviewers_ofReports {reviews : List Review}
    (hfiles : ∀ r ∈ reports, ∀ v ∈ r.verdict.violations, v.gapNumber? = none) :
    (Notice.reviewers (ofReports reports (approvers author reviews)).findings.violations
      author).Pairwise (· < ·) ∧
    (∀ login, login ∈ Notice.reviewers
        (ofReports reports (approvers author reviews)).findings.violations author ↔
      (∃ r ∈ reports, ∃ p, r.verdict.proposal = some p ∧ .account login ∈ p.authors ∧
        ∀ i ∈ p.authors, i ∉ approvers author reviews) ∧
      Identity.account login ≠ .ofLogin author) ∧
    ∀ login ∈ Notice.reviewers
        (ofReports reports (approvers author reviews)).findings.violations author,
      .account login ∉ approvers author reviews ∧
      Identity.account login ≠ .ofLogin author := by
  have hmem (login : String) : login ∈ Notice.reviewers
      (ofReports reports (approvers author reviews)).findings.violations author ↔
      (∃ r ∈ reports, ∃ p, r.verdict.proposal = some p ∧ .account login ∈ p.authors ∧
        ∀ i ∈ p.authors, i ∉ approvers author reviews) ∧
      Identity.account login ≠ .ofLogin author := by
    rw [Notice.mem_reviewers_iff, mem_missing_iff hfiles]
  refine ⟨Notice.pairwise_reviewers _ _, hmem, fun login hlogin => ?_⟩
  obtain ⟨⟨r, -, p, -, hauthor, hnone⟩, hother⟩ := (hmem login).1 hlogin
  exact ⟨hnone _ hauthor, hother⟩

/-- One proposal, of an account and a contact, and a file that is none. -/
def mixedReports : List Report := [
  ⟨"README.md", .refused [.invalidFilename "README.md"]⟩,
  ⟨"EIPS/eip-8.md", ⟨some ⟨some 8, some 8, some "draft",
    .ofList [.ofLogin "Bob", .ofContact "carol@example.org"], "EIP-8"⟩, []⟩⟩]

/-- The account is asked, although somebody else approves. -/
theorem Decision.reviewers_ofReports_mixed :
    (∀ r ∈ mixedReports, ∀ v ∈ r.verdict.violations, v.gapNumber? = none) ∧
    "bob" ∈ Notice.reviewers (ofReports mixedReports
      (approvers "alice" [⟨"carol", .approved, none⟩])).findings.violations "alice" ∧
    "carol" ∉ Notice.reviewers (ofReports mixedReports
      (approvers "alice" [⟨"carol", .approved, none⟩])).findings.violations "alice" := by
  have hfiles : ∀ r ∈ mixedReports, ∀ v ∈ r.verdict.violations, v.gapNumber? = none := by
    decide +kernel
  obtain ⟨-, hmem, hnever⟩ := @reviewers_ofReports "alice" mixedReports
    [⟨"carol", .approved, none⟩] hfiles
  refine ⟨hfiles, (hmem _).2 ?_, fun hcarol => ?_⟩
  · decide +kernel
  · exact (hnever _ hcarol).1 (by decide +kernel)

end ProposalGate
