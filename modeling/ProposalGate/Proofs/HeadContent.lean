import ProposalGate.Proofs.Merge
import ProposalGate.Proofs.Schedule.Lockstep

/-!
# What is seen of a head

A run reads every changed file as it is to be, but of its header it uses three attributes: the
number, the status and the title. `SameButHeads` says that two forges reply alike except for
contents at head, and that these can be read on both and have the same three attributes. Then the
run is in step with itself on the two forges (`run_inStep`), so nobody can tell them apart by its
result or by the calls it makes. An author list that is added by the change is not even looked up.
-/

namespace ProposalGate.Engine

open Forge (Call Pairing Program Reply Twins)
open Forge.Program (InStep RunsTo)

variable {number concurrency : Nat} {head : String} {pr : PullRequest}

/-! ## Versions -/

/-- The keys of the attributes that count at head. -/
def headKeys : List String :=
  [Policy.numberKey, Policy.statusKey, Policy.titleKey]

/-- Two versions of one file have the same attributes under the keys that count at head. -/
structure SameHead (v v' : Version) : Prop where
  /-- they were read from the same path -/
  path : v.path = v'.path
  /-- they have the same attributes -/
  attributes : ∀ k ∈ headKeys, v.header.get? k = v'.header.get? k

/-- **The rules cannot tell such versions apart.** -/
theorem SameHead.ofVersion_eq {v v' : Version} (h : SameHead v v') (authors : Roster) :
    Proposal.ofVersion v authors = .ofVersion v' authors := by
  have hnumber := h.attributes Policy.numberKey (by decide)
  have hstatus := h.attributes Policy.statusKey (by decide)
  have htitle := h.attributes Policy.titleKey (by decide)
  simp only [Proposal.ofVersion, Proposal.nameOf, Header.number?, Header.status?, Header.title?,
    h.path, hnumber, hstatus, htitle]

theorem SameHead.symm {v v' : Version} (h : SameHead v v') : SameHead v' v :=
  ⟨h.path.symm, fun k hk => (h.attributes k hk).symm⟩

/-! ## Forges -/

/-- Two replies hold contents that can be read, and their headers have the same attributes. -/
def SameReading (path commit : String) (reply reply' : Reply (.file path commit)) : Prop :=
  ∃ v v', Retrieval.versionOfReply path commit reply = .ok v ∧
    Retrieval.versionOfReply path commit reply' = .ok v' ∧ SameHead v v'

/-- **Two forges differ in nothing but heads.** All replies are the same except for contents at the
head of a pull request, which is not its base. -/
def SameButHeads (number : Nat) (head : String) : Pairing
  | .pullRequest n, reply, reply' => reply = reply' ∧
    (n = number → ∀ pr, reply = .ok pr → pr.headCommit = head ∧ pr.baseCommit ≠ head)
  | .file path commit, reply, reply' =>
    reply = reply' ∨ commit = head ∧ SameReading path commit reply reply'
  | _, reply, reply' => reply = reply'

theorem SameButHeads.symm {c : Call} {reply reply' : Reply c}
    (h : SameButHeads number head c reply reply') : SameButHeads number head c reply' reply := by
  cases c with
  | pullRequest n =>
    obtain ⟨rfl, hpr⟩ := h
    exact ⟨rfl, hpr⟩
  | file path commit =>
    rcases h with rfl | ⟨hcommit, v, v', hv, hv', hsame⟩
    · exact .inl rfl
    · exact .inr ⟨hcommit, v', v, hv', hv, hsame.symm⟩
  | _ => exact Eq.symm h

/-! ## The run -/

/-- A handle or a contact is looked up without a file. -/
theorem identify_inStep (token : String) :
    InStep (SameButHeads number head) Eq (Authorship.identify token)
      (Authorship.identify token) := by
  rw [Authorship.identify]
  split
  · exact .pure rfl
  · refine .bind (.find _) ?_
    rintro reply _ rfl
    exact .pure rfl

theorem proposalOf_inStep (v : Version) :
    InStep (SameButHeads number head) Eq (Authorship.proposalOf v) (Authorship.proposalOf v) := by
  rw [Authorship.proposalOf]
  cases v.header.authors? with
  | none => exact .pure rfl
  | some list =>
    refine .bind (S := Eq) (.bind (.forAll fun token _ => identify_inStep token) ?_) ?_
    · intro is is' his
      rw [List.forall₂_eq_eq_eq] at his
      exact .pure (congrArg Roster.ofList his)
    · rintro authors _ rfl
      exact .pure rfl

/-- A version at another commit is the same on both forges. -/
theorem base_inStep {commit : String} (hcommit : commit ≠ head) (path : String) :
    InStep (SameButHeads number head) Eq (Retrieval.version path commit)
      (Retrieval.version path commit) := by
  refine .bind (.call _) ?_
  rintro reply reply' (rfl | ⟨hhead, -⟩)
  · exact .pure rfl
  · exact absurd hhead hcommit

/-- What becomes of a head on the two forges: the same version or failure, or versions that cannot
be told apart. -/
def AlikeAtHead (r r' : Except Violation Version) : Prop :=
  r = r' ∨ ∃ v v', r = .ok v ∧ r' = .ok v' ∧ SameHead v v'

/-- Two versions at head may differ, but not in what is read from their headers. -/
theorem head_inStep (path commit : String) :
    InStep (SameButHeads number head) AlikeAtHead (Retrieval.version path commit)
      (Retrieval.version path commit) := by
  refine .bind (.call _) ?_
  rintro reply reply' (rfl | ⟨-, hread⟩)
  · exact .pure (.inl rfl)
  · exact .pure (.inr hread)

/-- What becomes of both versions of a file on the two forges. -/
def AlikeVersions (r r' : Except (List Violation) (Version × Version)) : Prop :=
  r = r' ∨ ∃ base v v', r = .ok (base, v) ∧ r' = .ok (base, v') ∧ SameHead v v'

/-- The version at base is the same, because base is another commit. -/
theorem versions_inStep (c : Change) {baseCommit headCommit : String} (hbase : baseCommit ≠ head) :
    InStep (SameButHeads number head) AlikeVersions (Retrieval.versions c baseCommit headCommit)
      (Retrieval.versions c baseCommit headCommit) := by
  refine .bind (.pair (base_inStep hbase c.basePath) (head_inStep c.path headCommit)) ?_
  rintro ⟨base, r⟩ ⟨_, r'⟩ ⟨rfl, rfl | ⟨v, v', rfl, rfl, hsame⟩⟩
  -- a head that can be read is of no use without a base
  · exact .pure (.inl rfl)
  · cases base with
    | error e => exact .pure (.inl rfl)
    | ok base => exact .pure (.inr ⟨base, v, v', rfl, rfl, hsame⟩)

/-- **The report on a file is the same on both forges.** -/
theorem report_inStep (hbase : pr.baseCommit ≠ head) (c : Change) :
    InStep (SameButHeads number head) Eq (report pr c) (report pr c) := by
  rw [report]
  cases Rules.refusal? c with
  | some v => exact .pure rfl
  | none =>
    refine .bind (versions_inStep c hbase) ?_
    rintro r _ (rfl | ⟨base, v, v', rfl, rfl, hsame⟩)
    · cases r with
      | error violations => exact .pure rfl
      | ok versions =>
        refine .bind (proposalOf_inStep versions.1) ?_
        rintro p _ rfl
        exact .pure rfl
    · refine .bind (proposalOf_inStep base) ?_
      rintro p _ rfl
      -- the head is seen through the proposal that it amounts to, and through nothing else
      rw [hsame.ofVersion_eq]
      exact .pure rfl

/-- The approvers come from the reviews, which are no files. -/
theorem approversOf_inStep (pr : PullRequest) :
    InStep (SameButHeads number head) Eq (approversOf pr) (approversOf pr) := by
  refine .bind (.call _) ?_
  rintro reviews _ rfl
  exact .pure rfl

/-- The decision is the same, whatever else the files at head contain. -/
theorem decide_inStep (hbase : pr.baseCommit ≠ head) (changes : List Change) :
    InStep (SameButHeads number head) Eq (decide pr changes concurrency)
      (decide pr changes concurrency) := by
  refine .bind (.pair (.forAll fun c _ => report_inStep hbase c) (approversOf_inStep pr)) ?_
  rintro ⟨reports, roster⟩ ⟨reports', roster'⟩ ⟨hreports, rfl⟩
  rw [List.forall₂_eq_eq_eq] at hreports
  obtain rfl : reports = reports' := hreports
  exact .pure rfl

/-- **The run is in step with itself** on forges that differ in nothing but heads. -/
theorem run_inStep (number concurrency : Nat) (head : String) :
    InStep (SameButHeads number head) Eq (run number concurrency) (run number concurrency) := by
  refine .bind (.call _) ?_
  rintro loaded _ ⟨rfl, hloaded⟩
  cases loaded with
  | error e => exact .pure rfl
  | ok pr =>
    obtain ⟨-, hbase⟩ := hloaded rfl pr rfl
    simp only
    cases stateError? number pr.state with
    | some e => exact .pure rfl
    | none =>
      refine .bind (.call _) ?_
      rintro compared _ rfl
      cases compared with
      | error e => exact .pure rfl
      | ok changes =>
        refine .bind (decide_inStep hbase changes) ?_
        rintro d _ rfl
        exact .pure rfl

/-- **Nothing else of a head is seen.** On forges that differ in nothing but heads every run on the
one is matched by a run on the other, with the same events in the same order up to what the replies
say of heads. It has the same result and makes the same calls. -/
theorem head_content_unseen {σ σ' : Type} {forge : Forge σ} {forge' : Forge σ'}
    {correspond : σ → σ' → Prop} {number : Nat} {head : String}
    (hforges : Twins (SameButHeads number head) correspond forge forge') {state : σ} {state' : σ'}
    (hstate : correspond state state') (concurrency : Nat) :
    (∀ t result s, RunsTo forge (.start state) (run number concurrency) t result s →
      ∃ t' s', t.Pair (SameButHeads number head) t' ∧
        RunsTo forge' (.start state') (run number concurrency) t' result s' ∧
          s'.calls = s.calls) ∧
      ∀ t' result s', RunsTo forge' (.start state') (run number concurrency) t' result s' →
        ∃ t s, t'.Pair (SameButHeads number head) t ∧
          RunsTo forge (.start state) (run number concurrency) t result s ∧
            s.calls = s'.calls := by
  constructor
  · intro t result s h
    obtain ⟨t', _, s', hpair, h', rfl, hcalls⟩ :=
      (run_inStep number concurrency head).runsTo hforges hstate h
    exact ⟨t', s', hpair, h', hcalls⟩
  -- the other forge differs from this one in nothing but heads either
  · intro t' result s' h'
    have hforges' :
        Twins (SameButHeads number head) (fun s' s => correspond s s') forge' forge := by
      intro c s' s hs
      obtain ⟨hreply, hnext⟩ := hforges c s s' hs
      exact ⟨hreply.symm, hnext⟩
    obtain ⟨t, _, s, hpair, h, rfl, hcalls⟩ :=
      (run_inStep number concurrency head).runsTo hforges' hstate h'
    exact ⟨t, s, hpair, h, hcalls⟩

/-! ## A head with another author -/

/-- The draft with somebody else for its author, and a text. -/
def takeover : String :=
  "---\neip: 7\nstatus: Draft\nauthor: Mallory (@mallory)\n---\nAll for Mallory.\n"

/-- The draft, or what becomes of it at head. -/
def takeoverContent (path commit : String) : String :=
  if path = editedFile.path ∧ commit = edit.headCommit then takeover else draft

/-- The two contents at head have the same number, title and status. -/
theorem twins_takeover : Twins (SameButHeads 1 edit.headCommit) (fun _ _ => True)
    (Forge.steady (editReplies (fun _ _ => draft) none))
    (Forge.steady (editReplies takeoverContent none)) := by
  intro c s s' _
  refine ⟨?_, trivial⟩
  cases c with
  | pullRequest n =>
    refine ⟨rfl, fun _ pr hpr => ?_⟩
    obtain rfl := Except.ok.inj hpr
    decide
  | file path commit =>
    by_cases h : path = editedFile.path ∧ commit = edit.headCommit
    · obtain ⟨rfl, rfl⟩ := h
      refine .inr ⟨rfl, _, _, Retrieval.versionOfReply_text _ _ draft _ _,
        Retrieval.versionOfReply_text _ _ takeover _ _, rfl, ?_⟩
      decide +kernel
    · left
      simp [Forge.steady, editReplies, takeoverContent, h]
  | _ => rfl

/-- The pull request is merged as if the author had not been replaced. -/
theorem run_merges_takeover : ∃ t result s t' s',
    RunsTo (Forge.steady (editReplies (fun _ _ => draft) none)) (.start ()) (run 1 8) t result s ∧
      RunsTo (Forge.steady (editReplies takeoverContent none)) (.start ()) (run 1 8) t' result s' ∧
        s'.calls = s.calls ∧ Merges result [7] := by
  obtain ⟨t, h⟩ := Forge.Program.runsTo_run (Forge.steady (editReplies (fun _ _ => draft) none))
    (run_live 1 8) (.start ())
  have hmerges := (mergeable_edit none).merges (concludes_of_runsTo h h.meets_only)
  obtain ⟨t', s', -, h', hcalls⟩ := (head_content_unseen twins_takeover trivial 8).1 _ _ _ h
  exact ⟨_, _, _, t', s', h, h', hcalls, hmerges⟩

end ProposalGate.Engine
