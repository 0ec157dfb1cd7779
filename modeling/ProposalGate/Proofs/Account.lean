import ProposalGate.Proofs.Merge
import ProposalGate.Proofs.Traffic

/-!
# Every changed file is accounted for

A report either accepts a proposal or says what is wrong, and never both or neither (`Accounts`).
What is accepted is `Justified`: its two numbers are there and are the one in the name of the
changed file, its status allows an edit, and its authors are those whom the base version names.

In a run every entry of the comparison has such a report (`every_file_accounted`), so there are as
many entries as accepted proposals and files with violations together, whatever is merged includes
every accepted proposal, and an approval gap has the number of a proposal, not a default. It follows
that nothing is merged without an accepted proposal, unless nothing was changed in the first place
(`merge_takes_acceptance`).
-/

namespace ProposalGate

open Forge (Answers Call Event Program Reply Trace)
open Forge.Program (Ends RunsTo Steps)
open Retrieval (Obtained)

variable {answers : Answers} {pr : PullRequest} {c : Change} {number concurrency : Nat}

/-! ## Approval gaps -/

/-- The number in an approval gap; other violations are none. -/
def Violation.gapNumber? : Violation → Option Nat
  | .noIdentifiableAuthors number | .missingAuthorApproval number _ => some number
  | _ => none

theorem Rules.gapNumber?_refusal {v : Violation} (h : refusal? c = some v) :
    v.gapNumber? = none := by
  rw [refusal?] at h
  split at h
  · exact Option.some.inj h ▸ rfl
  · split at h
    · exact Option.some.inj h ▸ rfl
    · cases h

theorem Rules.gapNumber?_numbering {path : String} {base head : Proposal} {v : Violation}
    (h : v ∈ numbering path base head) : v.gapNumber? = none := by
  rw [numbering] at h
  split at h
  · exact List.mem_singleton.1 h ▸ rfl
  · split at h
    · cases h
    · exact List.mem_singleton.1 h ▸ rfl

theorem Rules.gapNumber?_status {path : String} {base head : Proposal} {v : Violation}
    (h : v ∈ status path base head) : v.gapNumber? = none := by
  rw [status] at h
  split at h
  · exact List.mem_singleton.1 h ▸ rfl
  · split at h
    · cases h
    · exact List.mem_singleton.1 h ▸ rfl

theorem Rules.gapNumber?_judge {base head : Proposal} {v : Violation}
    (h : v ∈ (judge c base head).violations) : v.gapNumber? = none := by
  rcases mem_violations_judge h with hrefusal | hnumbering | hstatus
  · exact gapNumber?_refusal hrefusal
  · exact gapNumber?_numbering hnumbering
  · exact gapNumber?_status hstatus

theorem Retrieval.gapNumber?_versionOf {path commit : String} {file : FileContent} {v : Violation}
    (h : versionOf path commit file = .error v) : v.gapNumber? = none := by
  rw [versionOf] at h
  split at h
  · exact Except.error.inj h ▸ rfl
  · exact Except.error.inj h ▸ rfl
  · exact Except.error.inj h ▸ rfl
  · dsimp only at h
    split at h
    · exact Except.error.inj h ▸ rfl
    · split at h
      · cases h
      · exact Except.error.inj h ▸ rfl

theorem Retrieval.gapNumber?_versionOfReply {path commit : String}
    {reply : Reply (.file path commit)} {v : Violation}
    (h : versionOfReply path commit reply = .error v) : v.gapNumber? = none := by
  rcases reply with e | _ | file
  · cases e <;> exact Except.error.inj h ▸ rfl
  · exact Except.error.inj h ▸ rfl
  · exact gapNumber?_versionOf h

theorem Retrieval.gapNumber?_versions {baseCommit headCommit : String}
    {violations : List Violation} {v : Violation}
    (h : (versions c baseCommit headCommit).Yields answers (.error violations))
    (hv : v ∈ violations) : v.gapNumber? = none := by
  obtain ⟨_, _, ⟨base, -, rfl⟩, ⟨head, -, rfl⟩, htogether⟩ := versions_yields_iff.1 h
  rcases eq_error_of_mem_together htogether hv with h | h
  · exact gapNumber?_versionOfReply h
  · exact gapNumber?_versionOfReply h

namespace Engine

/-! ## One file -/

/-- **An accepted proposal is justified** by the name of the changed file and by the version before
the change. -/
structure Justified (answers : Answers) (pr : PullRequest) (c : Change) (p : Proposal) : Prop where
  /-- the number is in the name of the file, in the name of what was read, and in the header -/
  numbered : ∃ n, Policy.filenameNumber? c.path = some n ∧ p.filenameNumber = some n ∧
    p.headerNumber = some n
  /-- the status is one in which a proposal may be edited -/
  status : ∃ s ∈ Policy.editableStatuses, p.status = some s
  /-- the authors are those whom the version before the change names -/
  authors : ∃ base, Obtained answers c.basePath pr.baseCommit base ∧
    ∀ i, i ∈ p.authors ↔ Authorship.Names answers base i

/-- **A report accounts for a changed file**: it carries its path, and either accepts a proposal or
says what is wrong. -/
inductive Accounts (answers : Answers) (pr : PullRequest) (c : Change) : Report → Prop where
  /-- a proposal is accepted, and nothing is wrong -/
  | accepted {p : Proposal} : Justified answers pr c p → Accounts answers pr c ⟨c.path, ⟨some p, []⟩⟩
  /-- no proposal is accepted, and something is wrong with the file; that is never an approval -/
  | blocked {violations : List Violation} : violations ≠ [] →
      (∀ v ∈ violations, v.gapNumber? = none) → Accounts answers pr c ⟨c.path, ⟨none, violations⟩⟩

theorem Justified.of_judge (hsettled : answers.Settled) {base head : Version} {p : Proposal}
    (hbase : Obtained answers c.basePath pr.baseCommit base)
    (hhead : Obtained answers c.path pr.headCommit head)
    (hp : (Authorship.proposalOf base).Yields answers p)
    (hjudge : (Rules.judge c p (.ofVersion head .empty)).violations = []) :
    Justified answers pr c (Rules.accepted p (.ofVersion head .empty)) := by
  obtain ⟨hrefusal, hnumbering, hstatus⟩ := Rules.judge_violations_eq_nil_iff.1 hjudge
  obtain ⟨⟨n, hn⟩, -⟩ := Rules.refusal?_eq_none_iff.1 hrefusal
  obtain ⟨hself, -⟩ := Rules.numbering_eq_nil_iff.1 hnumbering
  obtain ⟨s, hs, -, hhs⟩ := Rules.status_eq_nil_iff.1 hstatus
  -- two missing numbers would agree, but head was read from the path of the change, which has one
  have hfilename : (Proposal.ofVersion head .empty).filenameNumber = some n := by
    rw [← hn, ← hhead.path_eq]
    rfl
  have hauthors : ∀ i, i ∈ p.authors ↔ Authorship.Names answers base i := fun i =>
    ⟨(Authorship.proposalOf_yields hp).2.1 i, fun hi => hi.mem hsettled hp⟩
  exact ⟨⟨n, hn, hfilename, hself.symm.trans hfilename⟩, ⟨s, hs, hhs⟩, base, hbase, hauthors⟩

/-- Whatever may be reported of a file accounts for it. -/
theorem Reported.accounts (hsettled : answers.Settled) {r : Report}
    (h : Reported answers pr c r) : Accounts answers pr c r := by
  obtain hrefusal | ⟨-, hversions⟩ | ⟨-, hbase, hhead, hp⟩ := h
  · refine .blocked (List.cons_ne_nil _ _) fun v hv => ?_
    obtain rfl := List.mem_singleton.1 hv
    exact Rules.gapNumber?_refusal hrefusal
  · exact .blocked (Retrieval.ne_nil_of_versions_yields_error hversions) fun v hv =>
      Retrieval.gapNumber?_versions hversions hv
  · rename_i base head p
    rcases Rules.judge_eq c p (.ofVersion head .empty) with hjudge | ⟨violations, hne, hjudge, -⟩
    · have hjustified := Justified.of_judge hsettled hbase hhead hp (by rw [hjudge])
      rw [hjudge]
      exact .accepted hjustified
    · have hgaps : ∀ v ∈ (Rules.judge c p (.ofVersion head .empty)).violations,
          v.gapNumber? = none := fun v => Rules.gapNumber?_judge
      rw [hjudge] at hgaps ⊢
      exact .blocked hne hgaps

theorem Justified.number? {p : Proposal} (h : Justified answers pr c p) :
    ∃ n, p.number? = some n ∧ p.headerNumber = some n ∧ p.filenameNumber = some n := by
  obtain ⟨n, -, hfilename, hheader⟩ := h.numbered
  exact ⟨n, by rw [Proposal.number?, hheader]; rfl, hheader, hfilename⟩

theorem Accounts.justified {r : Report} {p : Proposal} (h : Accounts answers pr c r)
    (hp : r.verdict.proposal = some p) : Justified answers pr c p := by
  cases h with
  | accepted hjustified => exact Option.some.inj hp ▸ hjustified
  | blocked => cases hp

theorem Accounts.gapNumber?_eq_none {r : Report} {v : Violation} (h : Accounts answers pr c r)
    (hv : v ∈ r.verdict.violations) : v.gapNumber? = none := by
  cases h with
  | accepted => cases hv
  | blocked _ hgaps => exact hgaps v hv

/-- All searches for a report are look-ups, so no contact gets two replies. -/
theorem settled_of_report {σ : Type} {forge : Forge σ} {s s' : Program.Session σ} {t : Trace}
    {r : Report} (h : RunsTo forge s (report pr c) t r s') : t.answers.Settled := by
  obtain ⟨readings, hreads⟩ := reads_report h.ends.tallies
  refine h.history.settled fun contact reply hmem => ?_
  have hmade := hreads.footprint.mem_made hmem
  simp [Reading.fetches] at hmade

/-! ## The run -/

/-- There are as many files as accepted proposals and files with violations. -/
theorem length_eq_of_accounts {changes : List Change} {reports : List Report}
    (h : List.Forall₂ (Accounts answers pr) changes reports) :
    changes.length = (reports.filterMap (·.verdict.proposal)).length +
      reports.countP fun r => !r.verdict.violations.isEmpty := by
  induction h with
  | nil => rfl
  | @cons c r _ _ hr _ ih =>
    cases hr with
    | accepted =>
      simp only [List.length_cons, ih, List.filterMap_cons, List.countP_cons, List.isEmpty_nil,
        Bool.not_true, Bool.false_eq_true, ↓reduceIte]
      omega
    | blocked hne =>
      simp only [List.length_cons, ih, List.filterMap_cons, List.countP_cons, Bool.not_eq_true',
        List.isEmpty_eq_false_iff, hne, ne_eq, not_false_eq_true, ↓reduceIte]
      omega

/-- What some reports, one for each changed file, and a decision on them have to do with each
other. -/
structure Complete (answers : Answers) (pr : PullRequest) (changes : List Change)
    (reports : List Report) (d : Decision) : Prop where
  /-- every file has a report -/
  accounts : List.Forall₂ (Accounts answers pr) changes reports
  /-- the accepted proposals are those of the reports -/
  accepted_perm : d.findings.accepted.Perm (reports.filterMap (·.verdict.proposal))
  /-- the violations are among those found -/
  violations_subset : reports.flatMap (·.verdict.violations) ⊆ d.findings.violations
  /-- no file is lost -/
  length_eq : changes.length =
    d.findings.accepted.length + reports.countP fun r => !r.verdict.violations.isEmpty
  /-- a merge is one of all accepted proposals -/
  merged : ∀ numbers, d.outcome = .merge numbers →
    ∀ p ∈ d.findings.accepted, ∃ n ∈ numbers, p.number? = some n
  /-- an approval gap has the number of an accepted proposal -/
  gaps : ∀ v ∈ d.findings.violations, ∀ n, v.gapNumber? = some n →
    ∃ p ∈ d.findings.accepted, p.headerNumber = some n ∧ p.filenameNumber = some n

/-- An approval gap has the number of its proposal, if the proposal has one. -/
theorem gapNumber?_gap {approving : Roster} {p : Proposal} {v : Violation}
    (h : p.gap? approving = some v) : v.gapNumber? = some (p.number?.getD 0) := by
  rw [Proposal.gap?] at h
  split at h
  · exact Option.some.inj h ▸ rfl
  · split at h
    · cases h
    · exact Option.some.inj h ▸ rfl

/-- A decision on reports that account for all files loses nothing. -/
theorem complete_ofReports {changes : List Change} {inOrder reports : List Report}
    {approving : Roster} (h : List.Forall₂ (Accounts answers pr) changes inOrder)
    (hperm : reports.Perm inOrder) :
    Complete answers pr changes inOrder (.ofReports reports approving) := by
  have hordered : (Report.ordered reports).Perm inOrder := (Report.ordered_perm reports).trans hperm
  have haccounts : ∀ r ∈ reports, ∃ c ∈ changes, Accounts answers pr c r :=
    (Program.exists_mem_of_forall₂ h hperm).2
  have hjustified : ∀ p ∈ (Findings.ofReports reports).accepted, ∃ c, Justified answers pr c p := by
    intro p hp
    obtain ⟨r, hr, hrp⟩ := Findings.mem_accepted_ofReports.1 hp
    obtain ⟨c, -, hc⟩ := haccounts r hr
    exact ⟨c, hc.justified hrp⟩
  have haccepted : (Findings.ofReports reports).accepted.Perm
      (inOrder.filterMap (·.verdict.proposal)) := hordered.filterMap _
  exact {
    accounts := h
    accepted_perm := haccepted
    violations_subset := fun v hv =>
      List.mem_append_left _ ((hordered.flatMap_right _).symm.subset hv)
    length_eq := (length_eq_of_accounts h).trans (congrArg (· + _) haccepted.length_eq.symm)
    merged := fun numbers hmerge p hp => by
      obtain ⟨c, hc⟩ := hjustified p hp
      obtain ⟨n, hn, -⟩ := hc.number?
      obtain ⟨-, rfl⟩ := Outcome.ofFindings_eq_merge_iff.1 hmerge
      exact ⟨n, Proposal.mem_numbers.2 ⟨p, hp, hn⟩, hn⟩
    gaps := fun v hv n hn => by
      rcases List.mem_append.1 hv with hv | hv
      · -- what is wrong with a file is no approval gap
        obtain ⟨r, hr, hvr⟩ := List.mem_flatMap.1 hv
        obtain ⟨c, -, hc⟩ := haccounts r ((Report.ordered_perm reports).subset hr)
        cases (hc.gapNumber?_eq_none hvr).symm.trans hn
      · obtain ⟨p, hp, hgap⟩ := List.mem_filterMap.1 hv
        have hp := List.mem_mergeSort.1 hp
        obtain ⟨c, hc⟩ := hjustified p hp
        obtain ⟨m, hm, hheader, hfilename⟩ := hc.number?
        obtain rfl : m = n := by simpa [hm, hn] using (gapNumber?_gap hgap).symm
        exact ⟨p, hp, hheader, hfilename⟩ }

/-- All searches for a decision are look-ups. -/
theorem not_searched_of_decide {changes : List Change} {t : Trace} {d : Decision}
    (h : (decide pr changes concurrency).Ends t d) (contact : String)
    (reply : Reply (.users contact)) : .called (.users contact) reply ∉ t := by
  intro hmem
  obtain ⟨readings, -, -, hfootprint⟩ := reads_decide h.tallies
  have hmade := hfootprint.mem_made hmem
  simp [Reading.fetches] at hmade

/-- A run that decides has loaded the pull request and compared its commits first. -/
theorem ends_run_ok {t : Trace} {result : Run} (h : (run number concurrency).Ends t (.ok result)) :
    ∃ changes t', t = .called (.pullRequest number) (.ok result.pr) ::
        .called (.compare result.pr.baseCommit result.pr.headCommit) (.ok changes) :: t' ∧
      (decide result.pr changes concurrency).Ends t' result.decision := by
  obtain ⟨loaded, t', hload, rfl⟩ := Ends.of_ask h
  rcases loaded with e | pr
  · cases hload.of_done.2
  simp only [Program.bind_done] at hload
  cases hstate : stateError? number pr.state with
  | some e =>
    simp only [hstate] at hload
    cases hload.of_done.2
  | none =>
    simp only [hstate] at hload
    obtain ⟨compared, t', hcompare, rfl⟩ := Ends.of_ask hload
    rcases compared with e | changes
    · cases hcompare.of_done.2
    · simp only [Program.bind_done] at hcompare
      obtain ⟨d, t₁, t₂, hdecide, hdone, rfl⟩ := Ends.of_bind hcompare
      obtain ⟨rfl, hresult⟩ := hdone.of_done
      obtain rfl := Except.ok.inj hresult
      rw [List.append_nil]
      exact ⟨changes, t₁, rfl, hdecide⟩

/-- What a run that decides makes of its replies. -/
theorem decision_of_runsTo {σ : Type} {forge : Forge σ} {s s' : Program.Session σ} {t : Trace}
    {result : Run} (h : RunsTo forge s (run number concurrency) t (.ok result) s') :
    ∃ changes inOrder reports approving t', t = .called (.pullRequest number) (.ok result.pr) ::
        .called (.compare result.pr.baseCommit result.pr.headCommit) (.ok changes) :: t' ∧
      List.Forall₂ (Accounts t.answers result.pr) changes inOrder ∧ reports.Perm inOrder ∧
        result.decision = .ofReports reports approving := by
  obtain ⟨changes, t', ht, hdecide⟩ := ends_run_ok h.ends
  have hmeets : Trace.Meets t.answers t' := fun e he => t.meets_answers e (by simp [ht, he])
  have hsettled : t.answers.Settled := h.history.settled fun contact reply hmem => by
    rw [ht] at hmem
    rcases List.mem_cons.1 hmem with heq | hmem
    · cases heq
    · rcases List.mem_cons.1 hmem with heq | hmem
      · cases heq
      · exact not_searched_of_decide hdecide contact reply hmem
  obtain ⟨inOrder, reports, reviews, hreported, hperm, -, hd⟩ :=
    decide_yields_iff.1 (hdecide.yields hmeets)
  exact ⟨changes, inOrder, reports, _, t', ht,
    hreported.imp fun _ _ hr => hr.accounts hsettled, hperm, hd.symm⟩

/-- **Every changed file is accounted for**, whatever the forge replies and in whatever order anything
happens. A report can always be brought to an end, and accepts a justified proposal or says what is
wrong. A run that decides has such a report for every entry of the comparison. -/
theorem every_file_accounted {σ : Type} (forge : Forge σ) :
    (∀ pr c t p s, Steps (report pr c) t p → ∃ t' r s', RunsTo forge s p t' r s') ∧
    (∀ pr c s t r s', RunsTo forge s (report pr c) t r s' → Accounts t.answers pr c r) ∧
    ∀ number concurrency s t result s',
      RunsTo forge s (run number concurrency) t (.ok result) s' →
        ∃ changes reports t', t = .called (.pullRequest number) (.ok result.pr) ::
            .called (.compare result.pr.baseCommit result.pr.headCommit) (.ok changes) :: t' ∧
          Complete t.answers result.pr changes reports result.decision := by
  refine ⟨fun pr c t p s h => (report_live pr c).ends forge h s, fun pr c s t r s' h => ?_, ?_⟩
  · exact (report_yields_iff.1 (h.ends.yields t.meets_answers)).accounts (settled_of_report h)
  · intro number concurrency s t result s' h
    obtain ⟨changes, inOrder, reports, approving, t', ht, haccounts, hperm, hd⟩ :=
      decision_of_runsTo h
    rw [hd]
    exact ⟨changes, inOrder, t', ht, complete_ofReports haccounts hperm⟩

/-- A pull request with one changed file is merged. -/
theorem exists_run_edit : ∃ t result s',
    RunsTo (Forge.steady (editReplies (fun _ _ => draft) none)) (.start ()) (run 1 8) t
      (.ok result) s' ∧
    t.Meets (.only (editReplies (fun _ _ => draft) none)) ∧
    result.decision.outcome = .merge [7] := by
  obtain ⟨t, h⟩ := Program.runsTo_run (Forge.steady (editReplies (fun _ _ => draft) none))
    (run_live 1 8) (.start ())
  have hmeets := h.meets_only
  obtain ⟨result, hresult, hmerge⟩ := (mergeable_edit none).merges (concludes_of_runsTo h hmeets)
  rw [hresult] at h
  exact ⟨t, result, _, h, hmeets, hmerge⟩

/-- The only changed file is accounted for, and merged. -/
theorem every_file_accounted_edit :
    (∃ t r s', RunsTo (Forge.steady (editReplies (fun _ _ => draft) none)) (.start ())
      (report edit editedFile) t r s' ∧ Accounts t.answers edit editedFile r) ∧
    ∃ t result s' reports, RunsTo (Forge.steady (editReplies (fun _ _ => draft) none)) (.start ())
        (run 1 8) t (.ok result) s' ∧ result.decision.outcome = .merge [7] ∧
      Complete t.answers result.pr [editedFile] reports result.decision := by
  obtain ⟨-, hreport, hrun⟩ :=
    every_file_accounted (Forge.steady (editReplies (fun _ _ => draft) none))
  constructor
  · obtain ⟨t, h⟩ := Program.runsTo_run (Forge.steady (editReplies (fun _ _ => draft) none))
      (report_live edit editedFile) (.start ())
    exact ⟨t, _, _, h, hreport _ _ _ _ _ _ h⟩
  · obtain ⟨t, result, s', h, hmeets, hmerge⟩ := exists_run_edit
    obtain ⟨changes, reports, t', rfl, hcomplete⟩ := hrun _ _ _ _ _ _ h
    have hcompare : Except.ok [editedFile] = .ok changes :=
      hmeets (.called _ _) (List.mem_cons_of_mem _ (List.mem_cons_self ..))
    obtain rfl := Except.ok.inj hcompare
    exact ⟨_, result, s', reports, h, hmerge, hcomplete⟩

/-! ## Nothing accepted -/

theorem Complete.exists_violation {changes : List Change} {reports : List Report} {d : Decision}
    (h : Complete answers pr changes reports d) (hchanges : changes ≠ [])
    (hnone : d.findings.accepted = []) : d.findings.violations ≠ [] := by
  -- every file has violations, and there is a file
  have hcount : 0 < reports.countP fun r => !r.verdict.violations.isEmpty := by
    have hlength := h.length_eq
    have hpos := List.length_pos_iff.2 hchanges
    rw [hnone, List.length_nil] at hlength
    omega
  obtain ⟨r, hr, hviolations⟩ := List.countP_pos_iff.1 hcount
  obtain ⟨v, hv⟩ := List.exists_mem_of_ne_nil r.verdict.violations (by simpa using hviolations)
  exact List.ne_nil_of_mem (h.violations_subset (List.mem_flatMap.2 ⟨r, hr, hv⟩))

/-- **Nothing is merged without an accepted proposal, unless nothing is changed.** If the comparison
lists a file then a merge has the numbers of accepted proposals, of which there are some, and a run
that accepts none leaves the pull request alone. If the comparison lists no file then no rule is
violated, and the merge is one of no proposals. -/
theorem merge_takes_acceptance {σ : Type} (forge : Forge σ) (number concurrency : Nat) :
    ∀ s t result s', RunsTo forge s (run number concurrency) t (.ok result) s' →
      ∃ changes t', t = .called (.pullRequest number) (.ok result.pr) ::
          .called (.compare result.pr.baseCommit result.pr.headCommit) (.ok changes) :: t' ∧
        (changes ≠ [] →
          (∀ numbers, result.decision.outcome = .merge numbers →
            result.decision.findings.accepted ≠ [] ∧ numbers ≠ []) ∧
          (result.decision.findings.accepted = [] → result.decision.outcome = .nothing)) ∧
        (changes = [] → result.decision = ⟨⟨[], []⟩, .merge []⟩) := by
  intro s t result s' h
  obtain ⟨changes, inOrder, reports, approving, t', ht, haccounts, hperm, hd⟩ :=
    decision_of_runsTo h
  have hcomplete : Complete t.answers result.pr changes inOrder result.decision := by
    rw [hd]
    exact complete_ofReports haccounts hperm
  have houtcome : result.decision.outcome = .ofFindings result.decision.findings := by
    rw [hd]
    rfl
  refine ⟨changes, t', ht, fun hchanges => ⟨fun numbers hmerge => ?_, fun hnone => ?_⟩, ?_⟩
  · have hclean := (Outcome.ofFindings_eq_merge_iff.1 (houtcome.symm.trans hmerge)).1
    have hsome : result.decision.findings.accepted ≠ [] := fun hnone =>
      hcomplete.exists_violation hchanges hnone hclean
    obtain ⟨p, hp⟩ := List.exists_mem_of_ne_nil _ hsome
    obtain ⟨n, hn, -⟩ := hcomplete.merged numbers hmerge p hp
    exact ⟨hsome, List.ne_nil_of_mem hn⟩
  · rw [houtcome, Outcome.ofFindings]
    simp [hcomplete.exists_violation hchanges hnone, hnone]
  · rintro rfl
    obtain rfl := List.forall₂_nil_left_iff.1 haccounts
    obtain rfl := hperm.eq_nil
    rw [hd, Decision.ofReports_nil]

/-- The merge of the edit is one of an accepted proposal. -/
theorem merge_takes_acceptance_edit : ∃ t result s',
    RunsTo (Forge.steady (editReplies (fun _ _ => draft) none)) (.start ()) (run 1 8) t
      (.ok result) s' ∧
    result.decision.outcome = .merge [7] ∧ result.decision.findings.accepted ≠ [] := by
  obtain ⟨t, result, s', h, hmeets, hmerge⟩ := exists_run_edit
  obtain ⟨changes, t', rfl, hsome, -⟩ := merge_takes_acceptance _ 1 8 _ _ _ _ h
  have hcompare : Except.ok [editedFile] = .ok changes :=
    hmeets (.called _ _) (List.mem_cons_of_mem _ (List.mem_cons_self ..))
  obtain rfl := Except.ok.inj hcompare
  exact ⟨_, result, s', h, hmerge, ((hsome (by simp)).1 _ hmerge).1⟩

/-- A pull request whose head does not differ from its base. -/
def untouched : PullRequest :=
  ⟨42, "Update (42)", .opened, "alice", "base0000", "head1111"⟩

/-- A forge that has this pull request. -/
def untouchedReplies : (c : Call) → Reply c
  | .pullRequest _ => .ok untouched
  | .compare .. => .ok []
  | c => editReplies (fun _ _ => draft) none c

/-- A run that accepts nothing, and ends in a merge of nothing. -/
theorem merges_nothing : ∃ t result s',
    RunsTo (Forge.steady untouchedReplies) (.start ()) (run 42 4) t (.ok result) s' ∧
      result.decision.findings.accepted = [] ∧ result.decision.outcome = .merge [] := by
  obtain ⟨t, h⟩ := Program.runsTo_run (Forge.steady untouchedReplies) (run_live 42 4) (.start ())
  have hresult : ((run 42 4).run (Forge.steady untouchedReplies) (.start ())).1 =
      .ok ⟨untouched, ⟨⟨[], []⟩, .merge []⟩⟩ := by
    decide +kernel
  rw [hresult] at h
  exact ⟨t, _, _, h, rfl, rfl⟩

end Engine

end ProposalGate
