import ProposalGate.Engine
import ProposalGate.Proofs.Authorship
import ProposalGate.Proofs.Decision
import ProposalGate.Proofs.Retrieval
import ProposalGate.Proofs.Rules

/-!
# What a run comes to

`Reported` has one rule for each way a changed file can go, and `Concludes` one for each way a
whole run can; programs and rules agree (`report_yields_iff`, `run_yields_iff`). Neither mentions
the order of the calls. What is left of it is the order of the reports, which is any.
-/

namespace ProposalGate.Engine

open Forge (Answers Program Reply)
open Retrieval (Obtained)

variable {answers : Answers} {pr : PullRequest} {c : Change} {number concurrency : Nat}

/-! ## Every pool is wide enough -/

/-- To judge one file, one place in every pool is enough. -/
theorem report_live (pr : PullRequest) (c : Change) : (report pr c).Live := by
  rw [report]
  cases Rules.refusal? c with
  | some v => trivial
  | none =>
    refine Program.Live.bind ⟨fun _ => trivial, fun _ => trivial, fun _ _ => trivial⟩ ?_
    rintro (violations | ⟨base, head⟩)
    · trivial
    · exact Program.Live.bind (Authorship.proposalOf_live base) fun _ => trivial

/-- However many files may be judged at the same time, one may. -/
theorem run_live (number concurrency : Nat) : (run number concurrency).Live := by
  refine Program.Live.bind (fun _ => trivial) ?_
  rintro (e | pr)
  · trivial
  · simp only
    cases stateError? number pr.state with
    | some e => trivial
    | none =>
      refine Program.Live.bind (fun _ => trivial) ?_
      rintro (e | changes)
      · trivial
      -- the files make up the only pool that could be of width zero
      · refine Program.Live.bind (Program.Live.bind ?_ fun _ => trivial) fun _ => trivial
        refine ⟨⟨fun _ => ?_, fun _ => report_live pr _, fun _ => trivial⟩,
          fun _ => trivial, fun _ _ => trivial⟩
        exact Nat.lt_of_lt_of_le Nat.one_pos (Nat.le_max_right concurrency 1)

/-! ## One file -/

/-- What may be reported of a changed file. -/
inductive Reported (answers : Answers) (pr : PullRequest) (c : Change) : Report → Prop where
  /-- it is refused before anything is read -/
  | refused {v : Violation} : Rules.refusal? c = some v →
      Reported answers pr c ⟨c.path, .refused [v]⟩
  /-- it is not there in both versions -/
  | unread {violations : List Violation} : Rules.refusal? c = none →
      (Retrieval.versions c pr.baseCommit pr.headCommit).Yields answers (.error violations) →
      Reported answers pr c ⟨c.path, .refused violations⟩
  /-- its versions are compared -/
  | judged {base head : Version} {p : Proposal} : Rules.refusal? c = none →
      Obtained answers c.basePath pr.baseCommit base → Obtained answers c.path pr.headCommit head →
      (Authorship.proposalOf base).Yields answers p →
      Reported answers pr c ⟨c.path, Rules.judge c p (.ofVersion head .empty)⟩

/-- What is reported of a file is what the rules for it say. -/
theorem report_yields_iff {r : Report} :
    (report pr c).Yields answers r ↔ Reported answers pr c r := by
  rw [report]
  cases hrefusal : Rules.refusal? c with
  | some v =>
    constructor
    · rintro rfl
      exact .refused hrefusal
    · rintro (h | ⟨h, -⟩ | ⟨h, -⟩)
      · obtain rfl := Option.some.inj (hrefusal.symm.trans h)
        exact rfl
      all_goals exact absurd (hrefusal.symm.trans h) (by simp)
  | none =>
    simp only [Program.yields_seq]
    constructor
    · rintro ⟨violations | ⟨base, head⟩, hversions, h⟩
      · obtain rfl := h
        exact .unread hrefusal hversions
      · obtain ⟨p, hp, rfl⟩ := Program.yields_seq.1 h
        obtain ⟨hbase, hhead⟩ := Retrieval.versions_yields_ok_iff.1 hversions
        exact .judged hrefusal hbase hhead hp
    · rintro (h | ⟨-, h⟩ | ⟨-, hbase, hhead, hp⟩)
      · exact absurd (hrefusal.symm.trans h) (by simp)
      · exact ⟨_, h, rfl⟩
      · exact ⟨_, Retrieval.versions_yields_ok_iff.2 ⟨hbase, hhead⟩,
          Program.yields_seq.2 ⟨_, hp, rfl⟩⟩

/-! ## The run -/

/-- What a run may come to. -/
inductive Concludes (answers : Answers) (number : Nat) : Except Error Run → Prop where
  /-- the pull request cannot be loaded -/
  | unloaded {e : Error} : answers (.pullRequest number) (.error e) →
      Concludes answers number (.error e)
  /-- it is not open -/
  | unopened {pr : PullRequest} {e : Error} : answers (.pullRequest number) (.ok pr) →
      stateError? number pr.state = some e → Concludes answers number (.error e)
  /-- its commits cannot be compared -/
  | uncompared {pr : PullRequest} {e : Error} : answers (.pullRequest number) (.ok pr) →
      stateError? number pr.state = none →
      answers (.compare pr.baseCommit pr.headCommit) (.error e) →
      Concludes answers number (.error e)
  /-- its files are judged and its reviews are counted -/
  | decided {pr : PullRequest} {changes : List Change} {inOrder reports : List Report}
      {reviews : Reply (.reviews pr.number)} : answers (.pullRequest number) (.ok pr) →
      stateError? number pr.state = none →
      answers (.compare pr.baseCommit pr.headCommit) (.ok changes) →
      List.Forall₂ (Reported answers pr) changes inOrder → reports.Perm inOrder →
      answers (.reviews pr.number) reviews →
      Concludes answers number
        (.ok ⟨pr, .ofReports reports (approvers pr.author (reviewsOf reviews))⟩)

/-- A decision is made of one report for each file, in any order, and of the reviews. -/
theorem decide_yields_iff {changes : List Change} {d : Decision} :
    (decide pr changes concurrency).Yields answers d ↔
      ∃ inOrder reports reviews, List.Forall₂ (Reported answers pr) changes inOrder ∧
        reports.Perm inOrder ∧ answers (.reviews pr.number) reviews ∧
        .ofReports reports (approvers pr.author (reviewsOf reviews)) = d := by
  simp only [decide, Program.yields_seq, Prod.exists, Program.yields_pair, Program.yields_forAll,
    report_yields_iff]
  constructor
  · rintro ⟨reports, roster, ⟨⟨inOrder, hreported, hperm⟩, reviews, hreviews, rfl⟩, rfl⟩
    exact ⟨inOrder, reports, reviews, hreported, hperm, hreviews, rfl⟩
  · rintro ⟨inOrder, reports, reviews, hreported, hperm, hreviews, rfl⟩
    exact ⟨reports, _, ⟨⟨inOrder, hreported, hperm⟩, reviews, hreviews, rfl⟩, rfl⟩

/-- A run comes to what the rules for it say. -/
theorem run_yields_iff {result : Except Error Run} :
    (run number concurrency).Yields answers result ↔ Concludes answers number result := by
  constructor
  · rintro ⟨e | pr, hpr, h⟩
    · obtain rfl := h
      exact .unloaded hpr
    · cases hstate : stateError? number pr.state with
      | some e =>
        simp only [Program.bind_done, hstate] at h
        obtain rfl := h
        exact .unopened hpr hstate
      | none =>
        simp only [Program.bind_done, hstate] at h
        obtain ⟨e | changes, hcompare, h⟩ := h
        · obtain rfl := h
          exact .uncompared hpr hstate hcompare
        · simp only [Program.bind_done] at h
          obtain ⟨d, hd, rfl⟩ := Program.yields_seq.1 h
          obtain ⟨_, _, _, hreported, hperm, hreviews, rfl⟩ := decide_yields_iff.1 hd
          exact .decided hpr hstate hcompare hreported hperm hreviews
  · rintro (hpr | ⟨hpr, hstate⟩ | ⟨hpr, hstate, hcompare⟩ |
      ⟨hpr, hstate, hcompare, hreported, hperm, hreviews⟩)
    · exact ⟨_, hpr, rfl⟩
    · refine ⟨_, hpr, ?_⟩
      simp only [Program.bind_done, hstate]
      exact rfl
    · refine ⟨_, hpr, ?_⟩
      simp only [Program.bind_done, hstate]
      exact ⟨_, hcompare, rfl⟩
    · refine ⟨_, hpr, ?_⟩
      simp only [Program.bind_done, hstate]
      refine ⟨_, hcompare, ?_⟩
      simp only [Program.bind_done]
      exact Program.yields_seq.2
        ⟨_, decide_yields_iff.2 ⟨_, _, _, hreported, hperm, hreviews, rfl⟩, rfl⟩

end ProposalGate.Engine
