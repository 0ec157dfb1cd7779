import ProposalGate.Proofs.Schedule.Scope
import ProposalGate.Proofs.Sequential

/-!
# One file does not affect another

`report_asksOnly` says what a report asks of a forge: the two versions of its file, and searches for
contacts. Suppose that in a run these calls, made for all changed files but one, got certain
replies, and the calls that are made for that one file alone got any whatsoever. Then the run
decides on the other files as if each of them had been judged by itself (`isolated_of_runsTo`); the
searches are shared between the files, but not more than that. So two runs that differ only in what
they are told of one file have the same reports of all others, and neither fails
(`other_files_unaffected`).

What is said of the file itself is an `OwnReport`. If it is not there in both versions then this is
what keeps its base from being there and then what keeps its head from being there.
-/

namespace ProposalGate.Engine

open Forge (Call Program Reply Trace)
open Forge.Program (AsksOnly RunsTo Steps)
open Retrieval (Failures)

variable {number concurrency : Nat} {pr : PullRequest} {f : Change}

/-! ## What a report asks -/

/-- The calls that a run makes whether or not it changes a certain file: the two at its beginning,
searches, and those for the versions of the other files. A file that is refused beforehand has no
version fetched. -/
inductive Shared (number : Nat) (pr : PullRequest) (others : List Change) : Call → Prop where
  /-- the pull request -/
  | pullRequest : Shared number pr others (.pullRequest number)
  /-- the changed files -/
  | compare : Shared number pr others (.compare pr.baseCommit pr.headCommit)
  /-- a search of the user directory -/
  | users (contact : String) : Shared number pr others (.users contact)
  /-- another file at base -/
  | base {c : Change} : c ∈ others → Rules.refusal? c = none →
      Shared number pr others (.file c.basePath pr.baseCommit)
  /-- another file at head -/
  | head {c : Change} : c ∈ others → Rules.refusal? c = none →
      Shared number pr others (.file c.path pr.headCommit)

variable {others : List Change}

theorem proposalOf_asksOnly (v : Version) :
    (Authorship.proposalOf v).AsksOnly (Shared number pr others) := by
  rw [Authorship.proposalOf]
  cases v.header.authors? with
  | none => trivial
  | some list =>
    refine .bind (.bind (.forAll fun token _ => ?_) fun _ => trivial) fun _ => trivial
    rw [Authorship.identify]
    split
    · trivial
    · exact .bind (.find (.users _)) fun _ => trivial

theorem versions_asksOnly {c : Change} (hc : c ∈ others) (hrefusal : Rules.refusal? c = none) :
    (Retrieval.versions c pr.baseCommit pr.headCommit).AsksOnly (Shared number pr others) := by
  refine .bind (.pair (.bind (.call ?_) fun _ => trivial) (.bind (.call ?_) fun _ => trivial))
    fun _ => trivial
  · exact .base hc hrefusal
  · exact .head hc hrefusal

/-- **A report asks for its own file**, and for whom the directory knows. -/
theorem report_asksOnly {c : Change} (hc : c ∈ others) :
    (report pr c).AsksOnly (Shared number pr others) := by
  rw [report]
  cases hrefusal : Rules.refusal? c with
  | some v => trivial
  | none =>
    refine .bind (versions_asksOnly hc hrefusal) ?_
    rintro (violations | ⟨base, head⟩)
    · trivial
    · exact .bind (proposalOf_asksOnly base) fun _ => trivial

/-! ## One run -/

/-- What a run says of one file, given what happened in the run. -/
structure OwnReport (pr : PullRequest) (f : Change) (t : Trace) (r : Report) : Prop where
  /-- it is a report on the file -/
  reported : Reported t.answers pr f r
  /-- if the file is not there in both versions then it says why, base first -/
  failures : Rules.refusal? f = none → ∃ base head baseFailures headFailures,
    t.answers (.file f.basePath pr.baseCommit) base ∧
    t.answers (.file f.path pr.headCommit) head ∧
    Failures f.basePath pr.baseCommit base baseFailures ∧
    Failures f.path pr.headCommit head headFailures ∧
    (baseFailures ++ headFailures ≠ [] →
      r = ⟨f.path, .refused (baseFailures ++ headFailures)⟩)

/-- A run decides on one file and on others, whose reports are given. -/
inductive Isolated (pr : PullRequest) (f : Change) (others : List Report) (t : Trace) :
    Except Error Run → Prop where
  /-- the reports are those of the others and one on the file, in any order -/
  | decided {own : Report} {reports : List Report} {reviews : Reply (.reviews pr.number)} :
      OwnReport pr f t own → reports.Perm (own :: others) →
      t.answers (.reviews pr.number) reviews →
      Isolated pr f others t
        (.ok ⟨pr, .ofReports reports (approvers pr.author (reviewsOf reviews))⟩)

theorem Reported.own {t : Trace} {r : Report} (h : Reported t.answers pr f r) :
    OwnReport pr f t r := by
  refine ⟨h, fun hrefusal => ?_⟩
  have hyields := report_yields_iff.2 h
  rw [report, hrefusal] at hyields
  obtain ⟨versions, hversions, hr⟩ := Program.yields_seq.1 hyields
  obtain ⟨_, _, ⟨base, hbase, rfl⟩, ⟨head, hhead, rfl⟩, rfl⟩ :=
    Retrieval.versions_yields_iff.1 hversions
  refine ⟨base, head, _, _, hbase, hhead, Retrieval.failures_iff.2 rfl,
    Retrieval.failures_iff.2 rfl, fun hfailed => ?_⟩
  rw [Retrieval.together_eq_error_iff.2 ⟨rfl, hfailed⟩] at hr
  exact hr.symm

/-- In a run the shared calls got certain replies, and no others. -/
def SharedReplies (replies : (c : Call) → Reply c) (number : Nat) (pr : PullRequest)
    (others : List Change) (t : Trace) : Prop :=
  ∀ c, Shared number pr others c → ∀ reply, t.answers c reply → replies c = reply

/-- In such a run the report on another file is what the file comes to by itself. -/
theorem Reported.eq_report_of_shared {replies : (c : Call) → Reply c} {t : Trace}
    (hshared : SharedReplies replies number pr others t) {c : Change} (hc : c ∈ others) {r : Report}
    (h : Reported t.answers pr c r) : r = Sequential.report replies pr c := by
  have hyields : (report pr c).Yields (.only replies) r :=
    (report_asksOnly hc).yields hshared (report_yields_iff.2 h)
  exact (report_yields_iff.1 hyields).eq_report

/-- If all elements of a list but one have a known counterpart, then these and a counterpart of the
one are all there are. -/
theorem exists_perm_of_forall₂ {α β : Type} {R : α → β → Prop} {known : α → β}
    {before after : List α} {a : α} {bs : List β}
    (h : List.Forall₂ R (before ++ a :: after) bs)
    (hknown : ∀ c ∈ before ++ after, ∀ b, R c b → b = known c) :
    ∃ b, R a b ∧ bs.Perm (b :: (before ++ after).map known) := by
  induction before generalizing bs with
  | nil =>
    cases h with
    | @cons _ b _ bs hb hrest =>
      rw [Program.eq_map_of_forall₂ hrest hknown]
      exact ⟨b, hb, .refl _⟩
  | cons c before ih =>
    cases h with
    | @cons _ b' _ bs hb' hrest =>
      obtain rfl := hknown c (List.mem_cons_self ..) b' hb'
      obtain ⟨b, hb, hperm⟩ := ih hrest fun d hd => hknown d (List.mem_cons_of_mem _ hd)
      exact ⟨b, hb, (hperm.cons _).trans (.swap ..)⟩

/-- The shared calls get these replies if the forge has no others for them, in whatever state it
is. -/
theorem sharedReplies_of_runsTo {σ : Type} {forge : Forge σ} {replies : (c : Call) → Reply c}
    (hforge : ∀ c, Shared number pr others c → ∀ s, (forge c s).1 = replies c) {state : σ}
    {t : Trace} {result : Except Error Run} {s' : Program.Session σ}
    (h : RunsTo forge (.start state) (run number concurrency) t result s') :
    SharedReplies replies number pr others t := by
  have hmeets : t.Meets fun c reply => Shared number pr others c → replies c = reply :=
    h.meets fun c s hc => (hforge c hc s).symm
  exact fun c hc reply hreply => hmeets.of_answers hreply hc

/-- **A run decides on all other files as if they had been judged by themselves.** -/
theorem isolated_of_runsTo {σ : Type} {forge : Forge σ} {replies : (c : Call) → Reply c}
    {before after : List Change} (hloaded : replies (.pullRequest number) = .ok pr)
    (hopened : pr.state = .opened)
    (hcompared : replies (.compare pr.baseCommit pr.headCommit) = .ok (before ++ f :: after))
    {s s' : Program.Session σ} {t : Trace} {result : Except Error Run}
    (h : RunsTo forge s (run number concurrency) t result s')
    (hshared : SharedReplies replies number pr (before ++ after) t) :
    Isolated pr f ((before ++ after).map (Sequential.report replies pr)) t result := by
  have hpr : ∀ reply, t.answers (.pullRequest number) reply → reply = .ok pr :=
    fun reply hreply => (hshared _ .pullRequest reply hreply).symm.trans hloaded
  have hchanges : ∀ reply, t.answers (.compare pr.baseCommit pr.headCommit) reply →
      reply = .ok (before ++ f :: after) :=
    fun reply hreply => (hshared _ .compare reply hreply).symm.trans hcompared
  obtain hload | ⟨hload, hstate⟩ | ⟨hload, -, hcompare⟩ | @⟨_, changes, inOrder, reports,
    reviews, hload, hstate, hcompare, hreported, hperm, hreviews⟩ :=
      concludes_of_runsTo h t.meets_answers
  -- the run does not fail, because it has the pull request and its changes
  · cases hpr _ hload
  · obtain rfl := Except.ok.inj (hpr _ hload)
    rw [stateError?_eq_none_iff.2 hopened] at hstate
    cases hstate
  · obtain rfl := Except.ok.inj (hpr _ hload)
    cases hchanges _ hcompare
  · obtain rfl := Except.ok.inj (hpr _ hload)
    obtain rfl := Except.ok.inj (hchanges _ hcompare)
    obtain ⟨own, hown, hreports⟩ := exists_perm_of_forall₂ hreported fun c hc r hr =>
      hr.eq_report_of_shared hshared hc
    exact .decided hown.own (hperm.trans hreports) hreviews

/-! ## Two runs -/

/-- **What becomes of one file has no effect on the others.** However far a run has come, it can be
brought to an end. Take two runs, on whatever forges, in which the calls that are made whether or
not a certain file is changed got the same replies, and the calls for that file alone got any.
Neither of them fails, and in both the other files have the same reports. -/
theorem other_files_unaffected {σ σ' : Type} (forge : Forge σ) (forge' : Forge σ')
    {replies : (c : Call) → Reply c} {before after : List Change}
    (hloaded : replies (.pullRequest number) = .ok pr) (hopened : pr.state = .opened)
    (hcompared : replies (.compare pr.baseCommit pr.headCommit) = .ok (before ++ f :: after))
    (concurrency concurrency' : Nat) :
    (∀ t p s, Steps (run number concurrency) t p → ∃ t' result s', RunsTo forge s p t' result s') ∧
    (∀ t p s, Steps (run number concurrency') t p →
      ∃ t' result s', RunsTo forge' s p t' result s') ∧
    ∀ state state' t t' result result' s s',
      RunsTo forge (.start state) (run number concurrency) t result s →
      RunsTo forge' (.start state') (run number concurrency') t' result' s' →
      SharedReplies replies number pr (before ++ after) t →
      SharedReplies replies number pr (before ++ after) t' →
        Isolated pr f ((before ++ after).map (Sequential.report replies pr)) t result ∧
        Isolated pr f ((before ++ after).map (Sequential.report replies pr)) t' result' := by
  refine ⟨fun t p s h => (run_live number concurrency).ends forge h s,
    fun t p s h => (run_live number concurrency').ends forge' h s, ?_⟩
  intro state state' t t' result result' s s' h h' hshared hshared'
  exact ⟨isolated_of_runsTo hloaded hopened hcompared h hshared,
    isolated_of_runsTo hloaded hopened hcompared h' hshared'⟩

/-- The forge with both files, but the first of them is not there at base, and asking for it at head
takes too long. -/
def lossyReplies : (c : Call) → Reply c
  | .file path commit =>
    if path = editedFile.path then
      if commit = edit.baseCommit then .ok none else .error (.timeout (.seconds 30))
    else pairReplies (.file path commit)
  | c => pairReplies c

/-- The file that cannot be read is refused for both reasons, and the other one is judged as if it
could be read. -/
theorem other_files_unaffected_lossy : ∃ t result s t' result' s',
    RunsTo (Forge.steady pairReplies) (.start ()) (run 1 8) t result s ∧
    RunsTo (Forge.steady lossyReplies) (.start ()) (run 1 8) t' result' s' ∧
    Isolated edit editedFile [Sequential.report pairReplies edit otherFile] t result ∧
    ∃ reports reviews,
      result' = .ok ⟨edit, .ofReports reports (approvers edit.author reviews)⟩ ∧
      reports.Perm [⟨editedFile.path, .refused
          [.remoteContentMissing editedFile.path edit.baseCommit .notFound,
            .remoteContentMissing editedFile.path edit.headCommit .timedOut]⟩,
        Sequential.report pairReplies edit otherFile] := by
  have hlossy : ∀ c, Shared 1 edit ([] ++ [otherFile]) c →
      ∀ s, (Forge.steady lossyReplies c s).1 = pairReplies c := by
    rintro c (_ | _ | _ | ⟨hc, -⟩ | ⟨hc, -⟩) s
    · rfl
    · rfl
    · rfl
    all_goals
      obtain rfl := List.mem_singleton.1 hc
      rfl
  have hpair : ∀ c, Shared 1 edit ([] ++ [otherFile]) c →
      ∀ s, (Forge.steady pairReplies c s).1 = pairReplies c := fun _ _ _ => rfl
  have hcompared : pairReplies (.compare edit.baseCommit edit.headCommit) =
      .ok ([] ++ editedFile :: [otherFile]) := rfl
  obtain ⟨hends, hends', hall⟩ := other_files_unaffected (Forge.steady pairReplies)
    (Forge.steady lossyReplies) rfl rfl hcompared 8 8
  obtain ⟨t, result, s, h⟩ := hends [] _ (.start ()) (.refl _)
  obtain ⟨t', result', s', h'⟩ := hends' [] _ (.start ()) (.refl _)
  obtain ⟨hisolated, hisolated'⟩ := hall () () _ _ _ _ _ _ h h' (sharedReplies_of_runsTo hpair h)
    (sharedReplies_of_runsTo hlossy h')
  refine ⟨t, result, s, t', result', s', h, h', hisolated, ?_⟩
  obtain @⟨own, reports, reviews, hown, hperm, -⟩ := hisolated'
  -- whatever the run was told of the file is what this forge says of it
  have hreply : ∀ c reply, t'.answers c reply → lossyReplies c = reply :=
    fun c reply => h'.meets_only.of_answers
  obtain ⟨base, head, baseFailures, headFailures, hbase, hhead, hb, hh, howned⟩ :=
    hown.failures (by decide +kernel)
  obtain rfl := hreply _ _ hbase
  obtain rfl := hreply _ _ hhead
  rw [Retrieval.failures_iff] at hb hh
  subst hb hh
  refine ⟨reports, _, rfl, ?_⟩
  rw [howned (by decide +kernel)] at hperm
  exact hperm

end ProposalGate.Engine
