import ProposalGate.Command
import ProposalGate.Proofs.Dispatch
import ProposalGate.Proofs.Traffic

/-!
# What a command writes

A command writes nothing before it has decided, and then nothing but what was decided
(`writes_follow_decision`). A merge is bound to the head commit that the pull request was loaded
with, which is also the one that was compared and of which every file was read; a report is one
comment at most, and reviews are requested at most once, after everything else and only if the
comment is there.

The calls of a whole command are those of the run that decided, followed by those that carry the
outcome out (`of_runsTo_program`). For the first part `Engine.Traffic` knows every call; for the
second part `Dispatch.Performs` does.
-/

namespace ProposalGate

open Forge (Call Event Reply Trace)
open Forge.Program (RunsTo Session)

variable {σ : Type} {forge : Forge σ} {number concurrency : Nat} {dryRun : Bool} {t : Trace}
  {s s' : Session σ}

namespace Command

open Engine (Reading Traffic)

/-- **The calls of a command** are those of the run that decides, and then, unless only a decision
was asked for or none came about, those that carry the outcome out. -/
theorem of_runsTo_program {result : Result}
    (h : RunsTo forge s (program number concurrency dryRun) t result s') :
    ∃ judged t₁ t₂ mid, RunsTo forge s (Engine.run number concurrency) t₁ judged mid ∧
      t = t₁ ++ t₂ ∧
      (((∃ e, judged = .error e) ∨ dryRun = true) ∧ s' = mid ∨
        ∃ run t₃ done, judged = .ok run ∧ dryRun = false ∧
          RunsTo forge mid (Dispatch.perform run.pr run.decision.outcome) t₃ done s') := by
  obtain ⟨judged, t₁, t₂, mid, hrun, hrest, rfl⟩ := h.of_bind
  refine ⟨judged, t₁, t₂, mid, hrun, rfl, ?_⟩
  rcases judged with e | run
  · obtain ⟨-, -, rfl⟩ := hrest.of_done
    exact .inl ⟨.inl ⟨e, rfl⟩, rfl⟩
  cases dryRun with
  | true =>
    obtain ⟨-, -, rfl⟩ := hrest.of_done
    exact .inl ⟨.inr rfl, rfl⟩
  | false =>
    right
    obtain ⟨done, t₃, t₄, last, hperform, hdone, -⟩ := hrest.of_bind
    refine ⟨run, t₃, done, rfl, rfl, ?_⟩
    rcases done with e | done
    · obtain ⟨-, -, rfl⟩ := hdone.of_done
      exact hperform
    · obtain ⟨-, -, rfl⟩ := hdone.of_done
      exact hperform

/-- **A merge is of what was judged.** -/
structure MergesJudged (number : Nat) (run : Run) (numbers : List Nat) (t : Trace)
    (calls : List Call) : Prop where
  /-- the pull request is as it was loaded -/
  loaded : .called (.pullRequest number) (.ok run.pr) ∈ t
  /-- the merge is of its head commit -/
  commit : (Notice.mergeRequest run.pr numbers).commit = run.pr.headCommit
  /-- it is the only write -/
  writes : calls.filter Call.isWrite =
    [.merge run.pr.number (Notice.mergeRequest run.pr numbers)]
  /-- the other calls loaded the pull request, compared its commits, listed its reviews, read files
  at its base commit and at its head commit, and searched for contacts -/
  reads : ∃ (readings : List (Reading run.pr)) (contacts : List String),
    (calls.filter fun c => !c.isWrite).Perm
      ([.pullRequest number, .compare run.pr.baseCommit run.pr.headCommit,
          .reviews run.pr.number]
        ++ readings.flatMap Reading.fetches ++ contacts.map .users)

/-- **A report is one comment and one request for reviews at most**, in this order. It begins in
the session that is given. -/
structure Reports (forge : Forge σ) (s : Session σ) (run : Run) (violations : List Violation)
    (calls : List Call) : Prop where
  /-- a comment is posted or edited once, reviews are requested once, and nothing is merged -/
  writes : (writeKinds calls).Sublist [.comment, .request]
  /-- if reviews are requested, that is the last call, and the comment is there by then -/
  request_last : ∀ n logins, .requestReviewers n logins ∈ calls → ∃ t action posted,
    RunsTo forge s (Dispatch.upsert run.pr.number (Notice.body violations)) t (.ok action) posted ∧
      calls = posted.calls ++ [.requestReviewers n logins]

section Report

variable {run : Run} {violations : List Violation}

/-- After calls that wrote nothing, the comment step writes one comment at most. -/
theorem writeKinds_of_upsert {attempt : Except Error CommentAction}
    (hsilent : writeKinds s.calls = [])
    (h : RunsTo forge s (Dispatch.upsert run.pr.number (Notice.body violations)) t attempt s') :
    writeKinds s'.calls = [] ∨ writeKinds s'.calls = [.comment] := by
  have hkinds := (Dispatch.upserts_of_runsTo h).writeKinds_eq
  rwa [hsilent] at hkinds

/-- No reviews have been requested by then. -/
theorem not_mem_of_upsert {attempt : Except Error CommentAction}
    (hsilent : writeKinds s.calls = [])
    (h : RunsTo forge s (Dispatch.upsert run.pr.number (Notice.body violations)) t attempt s')
    (n : Nat) (logins : List String) : .requestReviewers n logins ∉ s'.calls := by
  intro hmem
  have hkind : .request ∈ writeKinds s'.calls := List.mem_filterMap.2 ⟨_, hmem, rfl⟩
  rcases writeKinds_of_upsert hsilent h with hkinds | hkinds <;> simp [hkinds] at hkind

/-- Whatever comes of the comment step, it is within the bounds of a report. -/
theorem reports_of_upsert {attempt : Except Error CommentAction}
    (hsilent : writeKinds s.calls = [])
    (h : RunsTo forge s (Dispatch.upsert run.pr.number (Notice.body violations)) t attempt s') :
    Reports forge s run violations s'.calls where
  writes := by rcases writeKinds_of_upsert hsilent h with hkinds | hkinds <;> simp [hkinds]
  request_last n logins hmem := absurd hmem (not_mem_of_upsert hsilent h n logins)

theorem reports_of_performs {result : Except Error Dispatch} (hsilent : writeKinds s.calls = [])
    (h : Dispatch.Performs forge run.pr s (.comment violations) result s') :
    Reports forge s run violations s'.calls := by
  cases h with
  | unreported hupsert => exact reports_of_upsert hsilent hupsert
  | reported hupsert hrequests =>
    rcases hrequests.calls_eq with hcalls | hcalls
    · rw [hcalls]
      exact reports_of_upsert hsilent hupsert
    rw [hcalls]
    refine ⟨?_, fun n logins hmem => ?_⟩
    · rw [writeKinds_append, writeKinds_requestReviewers]
      rcases writeKinds_of_upsert hsilent hupsert with hkinds | hkinds <;> simp [hkinds]
    · rcases List.mem_append.1 hmem with hmem | hmem
      · exact absurd hmem (not_mem_of_upsert hsilent hupsert n logins)
      · rw [← List.mem_singleton.1 hmem]
        exact ⟨_, _, _, hupsert, rfl⟩

end Report

/-- A run that decided to merge is followed by the merge of what it judged. -/
theorem mergesJudged_of_performs {state : σ} {run : Run} {numbers : List Nat} {t' : Trace}
    {result : Except Error Dispatch}
    (hrun : RunsTo forge (.start state) (Engine.run number concurrency) t (.ok run) s)
    (h : Dispatch.Performs forge run.pr s (.merge numbers) result s') :
    MergesJudged number run numbers (t ++ t') s'.calls := by
  obtain ⟨calls, htraffic, hperm⟩ := Engine.traffic_of_runsTo hrun
  have hsilent : ∀ c ∈ s.calls, c.isWrite = false := fun c hc =>
    (Engine.reads_of_runsTo hrun hc).1
  cases h with
  | merge hask =>
    have hcalls := Session.calls_ask hask
    cases htraffic with
    | judged hpr _ _ _ _ =>
      refine ⟨List.mem_append_left t' (Multiset.mem_coe.1 hpr), rfl, ?_, ?_⟩
      · rw [hcalls, List.filter_append, List.filter_eq_nil_iff.2 fun c hc => by simp [hsilent c hc]]
        rfl
      · refine ⟨_, _, List.Perm.trans ?_ hperm⟩
        rw [hcalls, List.filter_append,
          List.filter_eq_self.2 fun c hc => by simp [hsilent c hc]]
        exact List.Perm.of_eq (List.append_nil _)

/-- **What is merged is what was judged, and writes follow the decision.** Whatever the forge
replies, and in whatever order the calls of a command are made, there is a run of the engine that
the command begins with, and what it came to settles the writes. -/
theorem writes_follow_decision {state : σ} {result : Result}
    (h : RunsTo forge (.start state) (program number concurrency dryRun) t result s') :
    ∃ judged t₁ mid, RunsTo forge (.start state) (Engine.run number concurrency) t₁ judged mid ∧
      t₁ <+: t ∧ mid.calls <+: s'.calls ∧
      (dryRun = true ∨ (∃ e, judged = .error e) ∨
          (∃ run, judged = .ok run ∧ run.decision.outcome = .nothing) →
        ∀ c ∈ s'.calls, c.isWrite = false) ∧
      (dryRun = false → ∀ run numbers, judged = .ok run → run.decision.outcome = .merge numbers →
        MergesJudged number run numbers t s'.calls) ∧
      (dryRun = false → ∀ run violations, judged = .ok run →
        run.decision.outcome = .comment violations →
          Reports forge mid run violations s'.calls) := by
  obtain ⟨judged, t₁, t₂, mid, hrun, rfl, hrest⟩ := of_runsTo_program h
  have hsilent : ∀ c ∈ mid.calls, c.isWrite = false := fun c hc =>
    (Engine.reads_of_runsTo hrun hc).1
  refine ⟨judged, t₁, mid, hrun, List.prefix_append .., ?_⟩
  rcases hrest with ⟨hstopped, rfl⟩ | ⟨run, t₃, done, rfl, hdry, hperform⟩
  · -- the command ends with the run
    refine ⟨List.prefix_refl _, fun _ => hsilent, ?_, ?_⟩
    all_goals
      intro hdry run _ hrun
      rcases hstopped with ⟨e, rfl⟩ | hwet
      · cases hrun
      · rw [hdry] at hwet
        cases hwet
  · have hperforms := Dispatch.performs_of_runsTo hperform
    refine ⟨hperform.history.calls_prefix, ?_, ?_, ?_⟩
    · rintro (hwet | ⟨e, he⟩ | ⟨run', hrun', hnothing⟩)
      · rw [hdry] at hwet
        cases hwet
      · cases he
      · obtain rfl := Except.ok.inj hrun'
        rw [hnothing] at hperforms
        cases hperforms
        exact hsilent
    · intro _ run' numbers hrun' hmerge
      obtain rfl := Except.ok.inj hrun'
      rw [hmerge] at hperforms
      exact mergesJudged_of_performs hrun hperforms
    · intro _ run' violations hrun' hcomment
      obtain rfl := Except.ok.inj hrun'
      rw [hcomment] at hperforms
      exact reports_of_performs (writeKinds_eq_nil_iff.2 hsilent) hperforms

/-- No command gets stuck. -/
theorem program_live (number concurrency : Nat) (dryRun : Bool) :
    (program number concurrency dryRun).Live := by
  refine Forge.Program.Live.bind (Engine.run_live number concurrency) ?_
  rintro (e | run)
  · trivial
  cases dryRun with
  | true => trivial
  | false =>
    refine Forge.Program.Live.bind (Dispatch.perform_live run.pr run.decision.outcome) ?_
    rintro (e | done) <;> trivial

/-- The pull request that can be merged is merged at the head commit that was judged. -/
theorem writes_follow_decision_edit : ∃ t result s',
    RunsTo (Forge.steady (Engine.editReplies (fun _ _ => Engine.draft) none)) (.start ())
        (program 1 8 false) t result s' ∧
      s'.calls.filter Call.isWrite = [.merge 1 (Notice.mergeRequest Engine.edit [7])] ∧
      (Notice.mergeRequest Engine.edit [7]).commit = "head" := by
  obtain ⟨t, h⟩ := Forge.Program.runsTo_run
    (Forge.steady (Engine.editReplies (fun _ _ => Engine.draft) none)) (program_live 1 8 false)
    (.start ())
  obtain ⟨judged, t₁, mid, hrun, -, -, -, hmerges, -⟩ := writes_follow_decision h
  have hconcludes := Engine.concludes_of_runsTo hrun hrun.meets_only
  obtain ⟨run, rfl, houtcome⟩ := (Engine.mergeable_edit none).merges hconcludes
  have hjudged := hmerges rfl run [7] rfl houtcome
  have hpr : Engine.edit = run.pr := Except.ok.inj (h.meets_only _ hjudged.loaded)
  have hwrites := hjudged.writes
  rw [← hpr] at hwrites
  exact ⟨t, _, _, h, hwrites, rfl⟩

end Command

end ProposalGate
