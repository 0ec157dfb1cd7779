import ProposalGate.Proofs.Merge
import ProposalGate.Proofs.Schedule.Lockstep
import ProposalGate.Proofs.Schedule.Ruin

/-!
# Faults only block

Contents, searches of the user directory and listings of reviews may fail without ending a run. A
content that fails ruins the run: its file is refused, so nothing is merged (`run_ruinedBy`). The
other failures leave the run in step with the one without them (`run_degrades`). A contact that
cannot be looked up stands for itself, which is no account and so nobody who approves, and without
reviews only the author approves. So a run that merges in spite of failures merges without them,
event for event (`faults_only_block`).
-/

namespace ProposalGate

open Forge (Answers Call Event Pairing Program Reply Trace Twins)
open Forge.Program (InStep RunsTo RuinedBy)

/-! ## Failures -/

/-- Whether a run goes on when a call fails. -/
def Forge.Call.isTolerated : Call → Bool
  | .file .. | .users _ | .reviews _ => true
  | _ => false

/-- Whether a run may still end in a merge when a call fails. -/
def Forge.Call.isOptional : Call → Bool
  | .users _ | .reviews _ => true
  | _ => false

/-- The first reply is the second one, unless the call is one of some and fails. -/
def Forge.Degrades (failing : Call → Bool) : Pairing :=
  fun c faulty reply => faulty = reply ∨ failing c = true ∧ ∃ e, faulty = .error e

/-- A content that fails. -/
def Forge.Event.FailsToRead : Event → Prop
  | .called (.file ..) (.error _) => True
  | _ => False

/-- If no content fails then all that fails is optional. -/
theorem Forge.Trace.Pair.optional {t t' : Trace}
    (h : t.Pair (Forge.Degrades Call.isTolerated) t') (hread : ∀ e ∈ t, ¬ e.FailsToRead) :
    t.Pair (Forge.Degrades Call.isOptional) t' := by
  refine ((List.forall₂_and_left _ _).2 ⟨hread, h⟩).imp ?_
  rintro _ _ ⟨hreads, @⟨c, reply, reply', hc⟩ | ⟨hc⟩⟩
  · refine .called ?_
    obtain rfl | ⟨hfailing, e, rfl⟩ := hc
    · exact .inl rfl
    · cases c with
      | file path commit => exact absurd trivial hreads
      | users _ | reviews _ => exact .inr ⟨rfl, e, rfl⟩
      | _ => cases hfailing
  · refine .lookedUp ?_
    obtain rfl | ⟨-, e, rfl⟩ := hc
    · exact .inl rfl
    · exact .inr ⟨rfl, e, rfl⟩

namespace Engine

open Forge (Degrades)

variable {author : String} {pr : PullRequest} {c : Change} {concurrency number : Nat} {i : Identity}

/-! ## Contents -/

theorem version_ruinedBy (path commit : String) :
    (Retrieval.version path commit).RuinedBy Event.FailsToRead fun r => ∃ e, r = .error e := by
  refine fun reply => ⟨fun hfails => ?_, trivial⟩
  cases reply with
  | ok file => exact absurd hfails id
  | error e => exact Program.Doomed.pure (by cases e <;> exact ⟨_, rfl⟩)

theorem versions_ruinedBy (c : Change) (baseCommit headCommit : String) :
    (Retrieval.versions c baseCommit headCommit).RuinedBy Event.FailsToRead
      fun r => ∃ violations, violations ≠ [] ∧ r = .error violations := by
  refine RuinedBy.bind (.pair (version_ruinedBy _ _) (version_ruinedBy _ _)) ?_ fun _ => trivial
  rintro ⟨base, head⟩ hfailed
  refine Program.Doomed.pure ?_
  have herror : ∃ violations, Retrieval.together base head = .error violations := by
    rcases hfailed with ⟨e, rfl⟩ | ⟨e, rfl⟩
    · exact ⟨_, rfl⟩
    · cases base <;> exact ⟨_, rfl⟩
  obtain ⟨violations, hviolations⟩ := herror
  exact ⟨violations, Retrieval.ne_nil_of_together_eq_error hviolations, hviolations⟩

/-- Who the authors are is no matter of contents. -/
theorem proposalOf_ruinedBy (v : Version) :
    (Authorship.proposalOf v).RuinedBy Event.FailsToRead fun _ => False := by
  rw [Authorship.proposalOf]
  cases v.header.authors? with
  | none => trivial
  | some list =>
    have hidentify : ∀ token ∈ AuthorList.tokens list,
        (Authorship.identify token).RuinedBy Event.FailsToRead fun _ => False := by
      intro token _
      rw [Authorship.identify]
      split
      · trivial
      · exact RuinedBy.bind (.find fun _ => id) (fun _ => False.elim) fun _ => trivial
    refine RuinedBy.bind (RuinedBy.bind (.forAll hidentify) ?_ fun _ => trivial)
      (fun _ => False.elim) fun _ => trivial
    rintro is ⟨i, -, hi⟩
    exact hi.elim

theorem report_ruinedBy (pr : PullRequest) (c : Change) :
    (report pr c).RuinedBy Event.FailsToRead fun r => r.verdict.violations ≠ [] := by
  rw [report]
  cases Rules.refusal? c with
  | some v => trivial
  | none =>
    refine RuinedBy.bind (versions_ruinedBy c _ _) ?_ ?_
    · rintro _ ⟨violations, hne, rfl⟩
      exact Program.Doomed.pure hne
    · rintro (violations | ⟨base, head⟩)
      · trivial
      · exact RuinedBy.bind (proposalOf_ruinedBy base) (fun _ => False.elim) fun _ => trivial

theorem decide_ruinedBy (pr : PullRequest) (changes : List Change) (concurrency : Nat) :
    (decide pr changes concurrency).RuinedBy Event.FailsToRead
      fun d => ∀ numbers, d.outcome ≠ .merge numbers := by
  have happrovers : (approversOf pr).RuinedBy Event.FailsToRead fun _ => False :=
    RuinedBy.bind (.call fun _ => id) (fun _ => False.elim) fun _ => trivial
  refine RuinedBy.bind (.pair (.forAll fun c _ => report_ruinedBy pr c) happrovers) ?_
    fun _ => trivial
  rintro ⟨reports, roster⟩ (⟨r, hr, hviolations⟩ | hfalse)
  · refine Program.Doomed.pure fun numbers hmerge => hviolations ?_
    exact (Decision.ofReports_outcome_eq_merge_iff.1 hmerge).1 r hr
  · exact hfalse.elim

/-- **A content that fails keeps a run from merging.** -/
theorem run_ruinedBy (number concurrency : Nat) : (run number concurrency).RuinedBy
    Event.FailsToRead fun result => ∀ numbers, ¬ Merges result numbers := by
  refine RuinedBy.bind (.call fun _ => id) (fun _ => False.elim) ?_
  rintro (e | pr)
  · trivial
  · simp only
    cases stateError? number pr.state with
    | some e => trivial
    | none =>
      refine RuinedBy.bind (.call fun _ => id) (fun _ => False.elim) ?_
      rintro (e | changes)
      · trivial
      · refine RuinedBy.bind (decide_ruinedBy pr changes concurrency) ?_ fun _ => trivial
        intro d hd
        refine Program.Doomed.pure ?_
        rintro numbers ⟨run, hrun, hmerge⟩
        obtain rfl := Except.ok.inj hrun
        exact hd numbers hmerge

/-! ## Searches and reviews -/

/-- An identity that may be among the approvers. -/
def MayApprove (i : Identity) : Prop :=
  ∃ author reviews, i ∈ approvers author reviews

/-- What a proposal becomes without failures: authors who may approve stay, and nothing else is
changed. -/
structure Regains (p p' : Proposal) : Prop where
  /-- only the authors differ -/
  same : p' = { p with authors := p'.authors }
  /-- whoever may approve is still an author -/
  authors : ∀ i ∈ p.authors, MayApprove i → i ∈ p'.authors

/-- What a verdict becomes without failures. -/
structure RegainsVerdict (v v' : Verdict) : Prop where
  /-- the violations are the same -/
  violations : v'.violations = v.violations
  /-- the proposal regains authors -/
  proposal : Option.Rel Regains v.proposal v'.proposal

theorem Regains.refl (p : Proposal) : Regains p p :=
  ⟨rfl, fun _ hi _ => hi⟩

theorem Regains.number?_eq {p p' : Proposal} (h : Regains p p') : p'.number? = p.number? := by
  rw [h.same]
  rfl

theorem RegainsVerdict.refl (v : Verdict) : RegainsVerdict v v := by
  obtain ⟨_ | p, violations⟩ := v
  · exact ⟨rfl, .none⟩
  · exact ⟨rfl, .some (.refl p)⟩

/-- No proposal is gained. -/
theorem RegainsVerdict.exists_of_eq_some {v v' : Verdict} (h : RegainsVerdict v v') {p' : Proposal}
    (hp' : v'.proposal = some p') : ∃ p, v.proposal = some p ∧ Regains p p' := by
  have hproposal := h.proposal
  rw [hp'] at hproposal
  generalize v.proposal = q at hproposal
  cases hproposal with
  | some hpp' => exact ⟨_, rfl, hpp'⟩

/-- No proposal is lost. -/
theorem RegainsVerdict.exists_eq_some {v v' : Verdict} (h : RegainsVerdict v v') {p : Proposal}
    (hp : v.proposal = some p) : ∃ p', v'.proposal = some p' ∧ Regains p p' := by
  have hproposal := h.proposal
  rw [hp] at hproposal
  generalize v'.proposal = q at hproposal
  cases hproposal with
  | some hpp' => exact ⟨_, rfl, hpp'⟩

/-- The rules do not look at authors. -/
theorem Regains.judge {p p' : Proposal} (h : Regains p p') (c : Change) (head : Proposal) :
    RegainsVerdict (Rules.judge c p head) (Rules.judge c p' head) := by
  have hnumbering : Rules.numbering c.path p' head = Rules.numbering c.path p head := by
    rw [h.same]
    rfl
  have hstatus : Rules.status c.path p' head = Rules.status c.path p head := by
    rw [h.same]
    rfl
  rw [Rules.judge, Rules.judge, hnumbering, hstatus]
  cases Rules.refusal? c with
  | some v => exact ⟨rfl, .none⟩
  | none =>
    simp only
    split
    · exact ⟨rfl, .some ⟨rfl, h.authors⟩⟩
    · exact ⟨rfl, .none⟩

/-- **A merge stays a merge** if verdicts regain what they lost and nobody ceases to approve. -/
theorem merge_of_regains {reports reports' : List Report} {roster roster' : Roster}
    {numbers : List Nat}
    (hreports : List.Forall₂ (fun r r' => RegainsVerdict r.verdict r'.verdict) reports reports')
    (hroster : ∀ i ∈ roster, MayApprove i ∧ i ∈ roster')
    (h : (Decision.ofReports reports roster).outcome = .merge numbers) :
    (Decision.ofReports reports' roster').outcome = .merge numbers := by
  rw [Decision.ofReports_outcome_eq_merge_iff] at h ⊢
  obtain ⟨hclean, happroved, hascending, hnumbers⟩ := h
  obtain ⟨hto, hfrom⟩ := Program.exists_mem_of_forall₂ hreports (.refl _)
  refine ⟨fun r' hr' => ?_, fun r' hr' p' hp' => ?_, hascending, fun n => ?_⟩
  · obtain ⟨r, hr, hregains⟩ := hfrom r' hr'
    rw [hregains.violations]
    exact hclean r hr
  · obtain ⟨r, hr, hregains⟩ := hfrom r' hr'
    obtain ⟨p, hp, hpp'⟩ := hregains.exists_of_eq_some hp'
    obtain ⟨i, hi, happroves⟩ := happroved r hr p hp
    obtain ⟨hmay, happroves'⟩ := hroster i happroves
    exact ⟨i, hpp'.authors i hi hmay, happroves'⟩
  · rw [hnumbers]
    constructor
    · rintro ⟨r, hr, p, hp, hn⟩
      obtain ⟨r', hr', hregains⟩ := hto r hr
      obtain ⟨p', hp', hpp'⟩ := hregains.exists_eq_some hp
      exact ⟨r', hr', p', hp', hpp'.number?_eq.trans hn⟩
    · rintro ⟨r', hr', p', hp', hn⟩
      obtain ⟨r, hr, hregains⟩ := hfrom r' hr'
      obtain ⟨p, hp, hpp'⟩ := hregains.exists_of_eq_some hp'
      exact ⟨r, hr, p, hp, hpp'.number?_eq.symm.trans hn⟩

/-! ## The run -/

/-- A token stands for the same identity without failures, unless what it stood for never
approves. -/
theorem identify_degrades {list token : String} (htoken : token ∈ AuthorList.tokens list) :
    InStep (Degrades Call.isOptional) (fun i i' => MayApprove i → i = i')
      (Authorship.identify token) (Authorship.identify token) := by
  rw [Authorship.identify]
  split
  · exact .pure fun _ => rfl
  · next hlogin =>
    have hcontact : Authorship.isLogin token = false := by simpa using hlogin
    refine .bind (.find _) ?_
    rintro reply reply' (rfl | ⟨-, e, rfl⟩)
    · exact .pure fun _ => rfl
    -- after a failure the token stands for a contact
    · refine .pure ?_
      rintro ⟨author, reviews, happroves⟩
      exact absurd happroves (contact_not_mem_approvers htoken hcontact)

theorem proposalOf_degrades (v : Version) :
    InStep (Degrades Call.isOptional) Regains (Authorship.proposalOf v)
      (Authorship.proposalOf v) := by
  rw [Authorship.proposalOf]
  cases v.header.authors? with
  | none => exact .pure ⟨rfl, fun i hi _ => hi⟩
  | some list =>
    refine .bind (S := fun r r' => ∀ i ∈ r, MayApprove i → i ∈ r')
      (.bind (.forAll fun token htoken => identify_degrades htoken) ?_) ?_
    · intro is is' his
      refine .pure fun i hi hmay => ?_
      rw [Roster.mem_ofList] at hi ⊢
      obtain ⟨i', hi', heq⟩ := (Program.exists_mem_of_forall₂ his (.refl _)).1 i hi
      rwa [heq hmay]
    · exact fun r r' hr => .pure ⟨rfl, hr⟩

theorem version_degrades (path commit : String) :
    InStep (Degrades Call.isOptional) Eq (Retrieval.version path commit)
      (Retrieval.version path commit) := by
  refine .bind (.call _) ?_
  rintro reply reply' (rfl | ⟨hfailing, -⟩)
  · exact .pure rfl
  · cases hfailing

theorem report_degrades (pr : PullRequest) (c : Change) :
    InStep (Degrades Call.isOptional) (fun r r' => RegainsVerdict r.verdict r'.verdict)
      (report pr c) (report pr c) := by
  rw [report]
  cases Rules.refusal? c with
  | some v => exact .pure (.refl _)
  | none =>
    have hversions : InStep (Degrades Call.isOptional) Eq
        (Retrieval.versions c pr.baseCommit pr.headCommit)
        (Retrieval.versions c pr.baseCommit pr.headCommit) := by
      refine .bind (.pair (version_degrades _ _) (version_degrades _ _)) ?_
      rintro ⟨base, head⟩ _ ⟨rfl, rfl⟩
      exact .pure rfl
    refine .bind hversions ?_
    rintro (violations | ⟨base, head⟩) _ rfl
    · exact .pure (.refl _)
    · refine .bind (proposalOf_degrades base) ?_
      intro p p' hp
      exact .pure (hp.judge c _)

/-- Who approves when the listing of reviews fails approves when it does not. -/
theorem approversOf_degrades (pr : PullRequest) :
    InStep (Degrades Call.isOptional) (fun r r' => ∀ i ∈ r, MayApprove i ∧ i ∈ r')
      (approversOf pr) (approversOf pr) := by
  refine .bind (.call _) ?_
  rintro reviews reviews' (rfl | ⟨-, e, rfl⟩)
  · exact .pure fun i hi => ⟨⟨_, _, hi⟩, hi⟩
  · exact .pure fun i hi => ⟨⟨_, _, hi⟩, approvers_mono hi⟩

theorem decide_degrades (pr : PullRequest) (changes : List Change) (concurrency : Nat) :
    InStep (Degrades Call.isOptional)
      (fun d d' => ∀ numbers, d.outcome = .merge numbers → d'.outcome = .merge numbers)
      (decide pr changes concurrency) (decide pr changes concurrency) := by
  refine .bind (.pair (.forAll fun c _ => report_degrades pr c) (approversOf_degrades pr)) ?_
  rintro ⟨reports, roster⟩ ⟨reports', roster'⟩ ⟨hreports, hroster⟩
  exact .pure fun numbers => merge_of_regains hreports hroster

/-- **A run that merges in spite of failed searches and listings merges without these failures.** -/
theorem run_degrades (number concurrency : Nat) :
    InStep (Degrades Call.isOptional) (fun r r' => ∀ numbers, Merges r numbers → Merges r' numbers)
      (run number concurrency) (run number concurrency) := by
  refine .bind (.call _) ?_
  rintro loaded _ (rfl | ⟨hfailing, -⟩)
  · cases loaded with
    | error e => exact .pure fun _ => id
    | ok pr =>
      simp only
      cases stateError? number pr.state with
      | some e => exact .pure fun _ => id
      | none =>
        refine .bind (.call _) ?_
        rintro compared _ (rfl | ⟨hfailing, -⟩)
        · cases compared with
          | error e => exact .pure fun _ => id
          | ok changes =>
            refine .bind (decide_degrades pr changes concurrency) fun d d' hd => .pure ?_
            rintro numbers ⟨run, hrun, hmerge⟩
            obtain rfl := Except.ok.inj hrun
            exact ⟨_, rfl, hd numbers hmerge⟩
        · cases hfailing
  · cases hfailing

/-- **Faults only block.** Let one forge be another on which any contents, searches and listings of
reviews fail. If a run on it ends in a merge then the run on the other, with the same events in the
same order up to what failed, ends in the same merge, and so does every run there that gets no
other reply to any call. What a contact stands for after a failed look-up never approves. -/
theorem faults_only_block {σ σ' : Type} {faulty : Forge σ} {forge : Forge σ'}
    {correspond : σ → σ' → Prop}
    (hforges : Twins (Degrades Call.isTolerated) correspond faulty forge) {state : σ} {state' : σ'}
    (hstate : correspond state state') (number concurrency : Nat) :
    (∀ t result s numbers,
      RunsTo faulty (.start state) (run number concurrency) t result s → Merges result numbers →
      ∃ t' result' s', t.Pair (Degrades Call.isTolerated) t' ∧
        RunsTo forge (.start state') (run number concurrency) t' result' s' ∧
        Merges result' numbers ∧
        ∀ replies, t'.Meets (.only replies) → ∀ concurrency' t'' result'' s'',
          RunsTo forge (.start state') (run number concurrency') t'' result'' s'' →
          t''.Meets (.only replies) → Merges result'' numbers) ∧
      ∀ list, ∀ token ∈ AuthorList.tokens list, Authorship.isLogin token = false →
        ∀ e author reviews, Authorship.identityOf (Authorship.searchKey token) (.error e) ∉
          approvers author reviews := by
  refine ⟨fun t result s numbers h hmerges => ?_,
    fun list token htoken hcontact e author reviews => contact_not_mem_approvers htoken hcontact⟩
  obtain ⟨t', s', hpair, hhistory, -⟩ := h.history.twin hforges (.start hstate)
  -- had a content failed then nothing would have been merged
  have hread : ∀ e ∈ t, ¬ e.FailsToRead := fun e he hfails =>
    h.ends.bad_of_mem (run_ruinedBy number concurrency) he hfails numbers hmerges
  obtain ⟨result', hends, hmerges'⟩ :=
    h.ends.inStep (run_degrades number concurrency) (hpair.optional hread)
  have h' : RunsTo forge (.start state') (run number concurrency) t' result' s' := ⟨hends, hhistory⟩
  refine ⟨t', result', s', hpair, h', hmerges' numbers hmerges, ?_⟩
  intro replies ht' concurrency' t'' result'' s'' h'' ht''
  -- the pull request is mergeable, which does not depend on the order of the calls
  obtain ⟨pr, changes, reviews, hmergeable⟩ :=
    (concludes_of_runsTo h' ht').mergeable (hmerges' numbers hmerges)
  exact hmergeable.merges (concludes_of_runsTo h'' ht'')

/-- Searches and listings of reviews that take too long are failures that a run tolerates. -/
theorem twins_edit (content : String → String → String) (e : Error) :
    Twins (Degrades Call.isTolerated) (fun _ _ => True)
      (Forge.steady (editReplies content (some e))) (Forge.steady (editReplies content none)) := by
  intro c _ _ _
  refine ⟨?_, trivial⟩
  cases c with
  | users query | reviews number => exact .inr ⟨rfl, e, rfl⟩
  | _ => exact .inl rfl

/-- The pull request is merged although searches and listings of reviews take too long, and so it is
merged without that, in every run. -/
theorem faults_do_not_block_edit : ∃ t result s t' result' s',
    RunsTo (Forge.steady (editReplies (fun _ _ => draft) (some (.timeout (.seconds 30)))))
        (.start ()) (run 1 8) t result s ∧
      Merges result [7] ∧
      RunsTo (Forge.steady (editReplies (fun _ _ => draft) none)) (.start ()) (run 1 8) t' result'
        s' ∧
      Merges result' [7] ∧ ∀ concurrency t'' result'' s'',
        RunsTo (Forge.steady (editReplies (fun _ _ => draft) none)) (.start ()) (run 1 concurrency)
          t'' result'' s'' → Merges result'' [7] := by
  obtain ⟨t, h⟩ := Forge.Program.runsTo_run
    (Forge.steady (editReplies (fun _ _ => draft) (some (.timeout (.seconds 30))))) (run_live 1 8)
    (.start ())
  have hmerges := (mergeable_edit (some (.timeout (.seconds 30)))).merges
    (concludes_of_runsTo h h.meets_only)
  obtain ⟨t', result', s', -, h', hmerges', hall⟩ :=
    (faults_only_block (twins_edit _ _) trivial 1 8).1 _ _ _ _ h hmerges
  refine ⟨_, _, _, _, _, _, h, hmerges, h', hmerges', ?_⟩
  intro concurrency t'' result'' s'' h''
  exact hall _ h'.meets_only concurrency _ _ _ h'' h''.meets_only

end Engine

end ProposalGate
