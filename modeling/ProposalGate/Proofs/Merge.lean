import ProposalGate.Proofs.Approvers
import ProposalGate.Proofs.Engine

/-!
# What a merge takes

`Fit` lists what a changed file has to be for the bot to merge it, and `Mergeable` what a pull
request has to be. Where a file was before, which reviews there are and who approves are said in
them and not computed as the bot does. A run that ends in a merge saw all of it, whatever the forge
replied to whatever call (`Concludes.mergeable`). If no call got two different replies then nothing
more is needed (`Mergeable.merges`). Every run, in any order of its calls, is covered, and none gets
stuck.
-/

namespace ProposalGate.Engine

open Forge (Answers Call Program Reply)
open Forge.Program (RunsTo Steps)
open Retrieval (Obtained)

variable {answers : Answers} {reviews : List Review} {pr : PullRequest} {c : Change}
  {number n : Nat} {numbers : List Nat} {basePath : String}

/-- **A changed file is fit to be merged** as the proposal with a number, given the reviews. -/
structure Fit (answers : Answers) (reviews : List Review) (pr : PullRequest) (c : Change) (n : Nat)
    (basePath : String) (base head : Version) : Prop where
  /-- its file name carries the number -/
  named : Policy.filenameNumber? c.path = some n
  /-- it is not new -/
  notAdded : c.status ≠ .added
  /-- it was at this path -/
  was_at : c.WasAt basePath
  /-- it can be read as it was -/
  base_obtained : Obtained answers basePath pr.baseCommit base
  /-- it can be read as it is to be -/
  head_obtained : Obtained answers c.path pr.headCommit head
  /-- its header is to have the number -/
  head_number : head.header.number? = some n
  /-- it had the number before, in its header or in its file name -/
  base_number : base.header.number? = some n ∨ Policy.filenameNumber? basePath = some n
  /-- its status stays what it was, and is one in which a proposal may be edited -/
  status : ∃ s ∈ ["draft", "review", "last call"], base.header.status? = some s ∧
    head.header.status? = some s
  /-- somebody whom it named as an author before approves -/
  approved : ∃ i, Approves pr.author reviews i ∧ Authorship.Names answers base i

/-- **The reviews of a pull request** are those that are listed, and none if they cannot be. -/
inductive Reviewed (answers : Answers) (number : Nat) : List Review → Prop where
  /-- these are listed -/
  | listed {reviews : List Review} : answers (.reviews number) (.ok reviews) →
      Reviewed answers number reviews
  /-- the listing fails or takes too long -/
  | unlisted {e : Error} : answers (.reviews number) (.error e) → Reviewed answers number []

/-- **A pull request is mergeable** with some numbers, given how it was loaded, which files it
changes and which reviews it has. -/
structure Mergeable (answers : Answers) (number : Nat) (pr : PullRequest) (changes : List Change)
    (reviews : List Review) (numbers : List Nat) : Prop where
  /-- this is the pull request -/
  loaded : answers (.pullRequest number) (.ok pr)
  /-- it is open -/
  opened : pr.state = .opened
  /-- these are the files -/
  compared : answers (.compare pr.baseCommit pr.headCommit) (.ok changes)
  /-- these are the reviews -/
  reviewed : Reviewed answers pr.number reviews
  /-- every file is fit to be merged -/
  fit : ∀ c ∈ changes, ∃ n basePath base head, Fit answers reviews pr c n basePath base head
  /-- the numbers ascend, so each is there once -/
  ascending : numbers.Pairwise (· < ·)
  /-- they are those in the file names -/
  mem_numbers : ∀ n, n ∈ numbers ↔ ∃ c ∈ changes, Policy.filenameNumber? c.path = some n

/-- A run ends in a merge with some numbers. -/
def Merges (result : Except Error Run) (numbers : List Nat) : Prop :=
  ∃ run, result = .ok run ∧ run.decision.outcome = .merge numbers

/-- Only an open pull request is judged. -/
theorem stateError?_eq_none_iff {s : PullState} : stateError? number s = none ↔ s = .opened := by
  cases s <;> simp [stateError?]

/-- The reviews of a pull request are those of the reply to the listing. -/
theorem reviewed_iff : Reviewed answers number reviews ↔
    ∃ reply, answers (.reviews number) reply ∧ reviewsOf reply = reviews := by
  constructor
  · rintro (⟨hlisted⟩ | ⟨hunlisted⟩)
    · exact ⟨_, hlisted, rfl⟩
    · exact ⟨_, hunlisted, rfl⟩
  · rintro ⟨e | reviews, hreply, rfl⟩
    · exact .unlisted hreply
    · exact .listed hreply

/-! ## One file -/

/-- A file without violations whose proposal is approved was fit to be merged. -/
theorem Reported.fit {r : Report} (h : Reported answers pr c r) (hr : r.verdict.violations = [])
    (happroved : ∀ p, r.verdict.proposal = some p → ∃ i ∈ p.authors, Approves pr.author reviews i) :
    ∃ n basePath base head, Fit answers reviews pr c n basePath base head ∧
      ∃ p, r.verdict.proposal = some p ∧ p.number? = some n := by
  -- a file that is refused or not there has a violation, so its versions were compared
  obtain _ | ⟨-, hversions⟩ | @⟨base, head, p, -, hbase, hhead, hp⟩ := h
  · simp [Verdict.refused] at hr
  · exact absurd hr (Retrieval.ne_nil_of_versions_yields_error hversions)
  · have hproposal := Rules.judge_proposal hr
    obtain ⟨hrefusal, hnumbering, hstatus⟩ := Rules.judge_violations_eq_nil_iff.1 hr
    obtain ⟨⟨n, hn⟩, hadded⟩ := Rules.refusal?_eq_none_iff.1 hrefusal
    obtain ⟨hself, hbefore⟩ := Rules.numbering_eq_nil_iff.1 hnumbering
    obtain ⟨i, hi, happroves⟩ := happroved _ hproposal
    obtain ⟨hpeq, hnames, -⟩ := Authorship.proposalOf_yields hp
    have hhn : head.header.number? = some n := by
      rw [← hn, ← hhead.path_eq]
      exact hself.symm
    refine ⟨n, c.basePath, base, head, ⟨hn, hadded, Change.wasAt_iff.2 rfl, hbase, hhead, hhn, ?_,
      ?_, i, happroves, hnames i hi⟩, _, hproposal, ?_⟩
    · rw [hpeq] at hbefore
      rwa [← hhn, ← hbase.path_eq]
    · rw [hpeq] at hstatus
      obtain ⟨s, hs, hkept⟩ := Rules.status_eq_nil_iff.1 hstatus
      exact ⟨s, by simpa using Policy.mem_editableStatuses_iff.1 hs, hkept⟩
    · simp [Rules.accepted, Proposal.ofVersion, Proposal.number?, hhn]

/-- A file that is fit to be merged has no violations, and an author of its proposal approves. -/
theorem Fit.reported {replies : (c : Call) → Reply c} {base head : Version} {r : Report}
    (h : Fit (.only replies) reviews pr c n basePath base head)
    (hr : Reported (.only replies) pr c r) :
    r.verdict.violations = [] ∧ ∃ p, r.verdict.proposal = some p ∧ p.number? = some n ∧
      ∃ i ∈ p.authors, Approves pr.author reviews i := by
  obtain rfl := Change.wasAt_iff.1 h.was_at
  have hrefusal : Rules.refusal? c = none := Rules.refusal?_eq_none_iff.2 ⟨⟨n, h.named⟩, h.notAdded⟩
  obtain hv | ⟨-, hversions⟩ | @⟨base', head', p, -, hbase, hhead, hp⟩ := hr
  · exact absurd (hrefusal.symm.trans hv) (by simp)
  · exact absurd hversions (Retrieval.not_versions_yields_error h.base_obtained h.head_obtained)
  -- the versions are those that make the file fit, because no call got two different replies
  · obtain rfl := hbase.unique h.base_obtained
    obtain rfl := hhead.unique h.head_obtained
    obtain ⟨hpeq, -, -⟩ := Authorship.proposalOf_yields hp
    have hnumbering : Rules.numbering c.path p (.ofVersion head' .empty) = [] := by
      rw [Rules.numbering_eq_nil_iff, hpeq]
      simp only [Proposal.ofVersion, hhead.path_eq, hbase.path_eq, h.named, h.head_number,
        true_and]
      exact h.base_number
    have hstatus : Rules.status c.path p (.ofVersion head' .empty) = [] := by
      obtain ⟨s, hs, hkept⟩ := h.status
      rw [Rules.status_eq_nil_iff, hpeq]
      exact ⟨s, Policy.mem_editableStatuses_iff.2 (by simpa using hs), hkept⟩
    have hjudge := Rules.judge_violations_eq_nil_iff.2 ⟨hrefusal, hnumbering, hstatus⟩
    obtain ⟨i, happroves, hnamed⟩ := h.approved
    have hi := hnamed.mem (Answers.settled_only replies) hp
    refine ⟨hjudge, _, Rules.judge_proposal hjudge, ?_, i, hi, happroves⟩
    simp [Rules.accepted, Proposal.ofVersion, Proposal.number?, h.head_number]

/-! ## The run -/

/-- A run comes to what its replies lead to. -/
theorem concludes_of_runsTo {σ : Type} {forge : Forge σ} {s s' : Forge.Program.Session σ}
    {concurrency : Nat} {t : Forge.Trace} {result : Except Error Run}
    (h : RunsTo forge s (run number concurrency) t result s') (ht : t.Meets answers) :
    Concludes answers number result :=
  run_yields_iff.1 (h.ends.yields ht)

/-- If every file has a report and every report accepts a proposal with the number in the name of
its file, then the accepted proposals have the numbers in the file names. -/
theorem exists_accepted_iff {changes : List Change} {reports : List Report}
    (hhas : ∀ c ∈ changes, ∃ r ∈ reports, Reported answers pr c r)
    (hfrom : ∀ r ∈ reports, ∃ c ∈ changes, Reported answers pr c r)
    (haccepted : ∀ c ∈ changes, ∀ r ∈ reports, Reported answers pr c r →
      ∃ p, r.verdict.proposal = some p ∧ p.number? = Policy.filenameNumber? c.path) (n : Nat) :
    (∃ r ∈ reports, ∃ p, r.verdict.proposal = some p ∧ p.number? = some n) ↔
      ∃ c ∈ changes, Policy.filenameNumber? c.path = some n := by
  constructor
  · rintro ⟨r, hr, p, hp, hn⟩
    obtain ⟨c, hc, hcr⟩ := hfrom r hr
    obtain ⟨q, hq, hqn⟩ := haccepted c hc r hr hcr
    obtain rfl := Option.some.inj (hq.symm.trans hp)
    exact ⟨c, hc, hqn.symm.trans hn⟩
  · rintro ⟨c, hc, hn⟩
    obtain ⟨r, hr, hcr⟩ := hhas c hc
    obtain ⟨p, hp, hpn⟩ := haccepted c hc r hr hcr
    exact ⟨r, hr, p, hp, hpn.trans hn⟩

/-- **Whatever is merged was mergeable**, whatever the forge replied to whatever call. -/
theorem Concludes.mergeable {result : Except Error Run} (h : Concludes answers number result)
    (hmerges : Merges result numbers) :
    ∃ pr changes reviews, Mergeable answers number pr changes reviews numbers := by
  obtain ⟨run, rfl, hmerge⟩ := hmerges
  -- a run that ends in an error has no outcome, so the files were judged
  obtain - | - | - | @⟨pr, changes, inOrder, reports, reviews, hpr, hstate, hcompare, hreported,
    hperm, hreviews⟩ := h
  obtain ⟨hclean, happroved, hascending, hnumbers⟩ :=
    Decision.ofReports_outcome_eq_merge_iff.1 hmerge
  obtain ⟨hhas, hfrom⟩ := Program.exists_mem_of_forall₂ hreported hperm
  have hfit : ∀ c, ∀ r ∈ reports, Reported answers pr c r → ∃ n basePath base head,
      Fit answers (reviewsOf reviews) pr c n basePath base head ∧
        ∃ p, r.verdict.proposal = some p ∧ p.number? = some n := fun c r hr hcr =>
    hcr.fit (hclean r hr) fun p hp => by
      simpa only [mem_approvers_iff_approves] using happroved r hr p hp
  refine ⟨pr, changes, reviewsOf reviews, ⟨hpr, stateError?_eq_none_iff.1 hstate, hcompare,
    reviewed_iff.2 ⟨_, hreviews, rfl⟩, ?_, hascending, fun n => ?_⟩⟩
  · intro c hc
    obtain ⟨r, hr, hcr⟩ := hhas c hc
    obtain ⟨n, basePath, base, head, h, -⟩ := hfit c r hr hcr
    exact ⟨n, basePath, base, head, h⟩
  · rw [hnumbers]
    refine exists_accepted_iff hhas hfrom (fun c _ r hr hcr => ?_) n
    obtain ⟨m, basePath, base, head, h, p, hp, hpm⟩ := hfit c r hr hcr
    exact ⟨p, hp, hpm.trans h.named.symm⟩

/-- If no call got two different replies, **whatever is mergeable is merged**. -/
theorem Mergeable.merges {replies : (c : Call) → Reply c} {changes : List Change}
    {result : Except Error Run}
    (h : Mergeable (.only replies) number pr changes reviews numbers)
    (hresult : Concludes (.only replies) number result) : Merges result numbers := by
  obtain hpr | ⟨hpr, hstate⟩ | ⟨hpr, hstate, hcompare⟩ | ⟨hpr, hstate, hcompare, hreported, hperm,
    hreviews⟩ := hresult
  -- the first three would take another reply to a call that is answered already
  · exact absurd (h.loaded.symm.trans hpr) (by simp)
  · obtain rfl := Except.ok.inj (h.loaded.symm.trans hpr)
    exact absurd (hstate.symm.trans (stateError?_eq_none_iff.2 h.opened)) (by simp)
  · obtain rfl := Except.ok.inj (h.loaded.symm.trans hpr)
    exact absurd (h.compared.symm.trans hcompare) (by simp)
  · obtain rfl := Except.ok.inj (h.loaded.symm.trans hpr)
    obtain rfl := Except.ok.inj (h.compared.symm.trans hcompare)
    obtain ⟨reply, hreply, rfl⟩ := reviewed_iff.1 h.reviewed
    obtain rfl := hreply.symm.trans hreviews
    obtain ⟨hhas, hfrom⟩ := Program.exists_mem_of_forall₂ hreported hperm
    have hfit : ∀ c ∈ changes, ∀ r, Reported (.only replies) pr c r → r.verdict.violations = [] ∧
        ∃ p, r.verdict.proposal = some p ∧ p.number? = Policy.filenameNumber? c.path ∧
          ∃ i ∈ p.authors, Approves pr.author (reviewsOf reply) i := by
      intro c hc r hcr
      obtain ⟨n, basePath, base, head, hn⟩ := h.fit c hc
      rw [hn.named]
      exact hn.reported hcr
    refine ⟨_, rfl, Decision.ofReports_outcome_eq_merge_iff.2
      ⟨fun r hr => ?_, fun r hr p hp => ?_, h.ascending, fun n => ?_⟩⟩
    · obtain ⟨c, hc, hcr⟩ := hfrom r hr
      exact (hfit c hc r hcr).1
    · obtain ⟨c, hc, hcr⟩ := hfrom r hr
      obtain ⟨-, q, hq, -, happroved⟩ := hfit c hc r hcr
      obtain rfl := Option.some.inj (hq.symm.trans hp)
      simpa only [mem_approvers_iff_approves] using happroved
    · rw [h.mem_numbers]
      refine (exists_accepted_iff hhas hfrom (fun c hc r _ hcr => ?_) n).symm
      obtain ⟨-, p, hp, hpn, -⟩ := hfit c hc r hcr
      exact ⟨p, hp, hpn⟩

/-- A document with a header and nothing else. -/
def draft : String :=
  "---\neip: 7\nstatus: Draft\nauthor: Alice (@alice), Bob <bob@example.org>\n---\n"

theorem header_draft : Header.read draft =
    ⟨[("eip", "7"), ("status", "Draft"), ("author", "Alice (@alice), Bob <bob@example.org>")]⟩ := by
  decide +kernel

/-- A pull request by one of the authors of the draft. -/
def edit : PullRequest :=
  ⟨1, "Fix a typo", .opened, "alice", "base", "head"⟩

/-- Its only change. -/
def editedFile : Change :=
  ⟨"EIPS/eip-7.md", none, .modified⟩

/-- A forge that has this pull request, no accounts and no reviews. The content of a path at a
commit is a parameter; so is the error, if any, with which searches and the listing of reviews
fail. -/
def editReplies (content : String → String → String) (fault? : Option Error) : (c : Call) → Reply c
  | .pullRequest _ => .ok edit
  | .compare .. => .ok [editedFile]
  | .file path commit => .ok (some ⟨some (content path commit), some "utf-8", some path, some path⟩)
  | .users _ | .reviews _ => fault?.elim (.ok []) .error
  | .comments _ => .ok []
  | .requestReviewers .. | .createComment .. | .updateComment .. => .ok ()
  | .merge .. => .ok ⟨true, none, none⟩
  | .currentUser => .ok "bot"

theorem header_ofBody_draft (commit path : String) : (Version.ofBody commit path draft).header =
    ⟨[("eip", "7"), ("status", "Draft"), ("author", "Alice (@alice), Bob <bob@example.org>")]⟩ :=
  header_draft

/-- The draft is fit to be merged if one of its authors approves. -/
theorem fit_draft (hnamed : Policy.filenameNumber? c.path = some 7) (hadded : c.status ≠ .added)
    (hwas : c.WasAt basePath)
    (hbase : Obtained answers basePath pr.baseCommit (.ofBody pr.baseCommit basePath draft))
    (hhead : Obtained answers c.path pr.headCommit (.ofBody pr.headCommit c.path draft))
    (happroves : Approves pr.author reviews (.ofLogin "@alice")) :
    Fit answers reviews pr c 7 basePath (.ofBody pr.baseCommit basePath draft)
      (.ofBody pr.headCommit c.path draft) where
  named := hnamed
  notAdded := hadded
  was_at := hwas
  base_obtained := hbase
  head_obtained := hhead
  head_number := by
    rw [header_ofBody_draft]
    decide +kernel
  base_number := by
    rw [header_ofBody_draft]
    exact .inl (by decide +kernel)
  status := by
    rw [header_ofBody_draft, header_ofBody_draft]
    exact ⟨"draft", by decide +kernel⟩
  approved := by
    refine ⟨_, happroves, "Alice (@alice), Bob <bob@example.org>", ?_, "@alice", ?_, .login ?_⟩
    · rw [header_ofBody_draft]
      decide +kernel
    · decide +kernel
    · decide +kernel

/-- The author of the pull request is an author of the draft, so no review is needed, and it does
not matter whether the listing fails. -/
theorem mergeable_edit (fault? : Option Error) :
    Mergeable (.only (editReplies (fun _ _ => draft) fault?)) 1 edit [editedFile] [] [7] where
  loaded := rfl
  opened := rfl
  compared := rfl
  reviewed := by
    cases fault? with
    | none => exact .listed rfl
    | some e => exact .unlisted rfl
  fit := List.forall_mem_singleton.2 ⟨7, _, _, _, fit_draft (by decide +kernel) (by decide)
    (.stayed nofun) (.of_text rfl) (.of_text rfl) (.inl ⟨by decide, by decide +kernel⟩)⟩
  ascending := List.pairwise_singleton ..
  mem_numbers n := by
    have hnumber : Policy.filenameNumber? editedFile.path = some 7 := by decide +kernel
    simp [hnumber, eq_comm]

/-- A pull request by somebody who is no author of the draft. -/
def move : PullRequest :=
  ⟨1, "Assign the number", .opened, "carol", "base", "head"⟩

/-- Its only change: the draft gets the path with its number. -/
def movedFile : Change :=
  ⟨"EIPS/eip-7.md", some "EIPS/eip-draft.md", .renamed⟩

end ProposalGate.Engine
