import ProposalGate.Proofs.Merge
import ProposalGate.Proofs.Report
import ProposalGate.Proofs.Schedule.Sequence
import ProposalGate.Proofs.Schedule.Termination

/-!
# One file after the other

`Sequential.run` is what the bot does if it is told without any concurrency: the changed files are
judged one by one, every contact is searched for as often as it is named, the approvers are found
once, and the decision is made. It is a function of the replies alone, and no program.

Where the reply to a call depends on the call alone, every run comes to this result
(`schedule_independent`): whatever the order in which files, versions, look-ups and reviews make
progress, however many files may be judged at the same time, and although a contact that two files
name is searched for only once. Three things are needed for this. A look-up has the reply that a
search of its own would have had; a roster has one representation, whatever the order of its members
(`Roster.eq_of_mem_iff`); and reports of different files have one order.
-/

namespace ProposalGate

open Forge (Answers Call Program Reply Trace)
open Forge.Program (RunsTo Step Steps)

/-- Two rosters with the same members are the same. -/
theorem Roster.eq_of_mem_iff {r s : Roster} (h : ∀ i, i ∈ r ↔ i ∈ s) : r = s := by
  have hirrefl : Std.Irrefl (α := Identity) (· < ·) := ⟨fun i => String.lt_irrefl i.text⟩
  have hantisymm : Std.Antisymm (α := Identity) (· < ·) :=
    ⟨fun i j hij hji => absurd (Identity.lt_trans hij hji) (String.lt_irrefl i.text)⟩
  obtain ⟨is, his⟩ := r
  obtain ⟨js, hjs⟩ := s
  obtain rfl : is = js := his.eq_of_mem_iff hjs h
  rfl

namespace Engine

/-! ## The sequential run -/

namespace Sequential

variable (replies : (c : Call) → Reply c)

/-- The identity a token stands for; a contact is searched for by its text, trimmed and in lower
case. -/
def identity (token : String) : Identity :=
  if Authorship.isLogin token then .ofLogin token
  else Authorship.identityOf (Authorship.searchKey token)
    (replies (.users (Authorship.searchKey token)))

/-- The authors that the header of a version names. -/
def authors (v : Version) : Roster :=
  match v.header.authors? with
  | some list => .ofList ((AuthorList.tokens list).map (identity replies))
  | none => .empty

/-- One version of a file. -/
def version (path commit : String) : Except Violation Version :=
  Retrieval.versionOfReply path commit (replies (.file path commit))

/-- What the rules say of a changed file. -/
def verdict (pr : PullRequest) (c : Change) : Verdict :=
  match Rules.refusal? c with
  | some violation => .refused [violation]
  | none =>
    match version replies c.basePath pr.baseCommit, version replies c.path pr.headCommit with
    | .ok base, .ok head =>
      Rules.judge c (.ofVersion base (authors replies base)) (.ofVersion head .empty)
    | base, head => .refused (Retrieval.failure? base ++ Retrieval.failure? head)

/-- The report on a changed file. -/
def report (pr : PullRequest) (c : Change) : Report :=
  ⟨c.path, verdict replies pr c⟩

/-- What is decided on an open pull request. -/
def decision (pr : PullRequest) (changes : List Change) : Decision :=
  .ofReports (changes.map (report replies pr))
    (approvers pr.author (reviewsOf (replies (.reviews pr.number))))

/-- What the bot comes to. -/
def run (number : Nat) : Except Error Run := do
  let pr ← replies (.pullRequest number)
  match stateError? number pr.state with
  | some e => .error e
  | none =>
    let changes ← replies (.compare pr.baseCommit pr.headCommit)
    .ok ⟨pr, decision replies pr changes⟩

end Sequential

/-! ## One file -/

variable {replies : (c : Call) → Reply c} {pr : PullRequest} {c : Change} {number : Nat}

theorem resolves_only_iff_identity {token : String} {i : Identity} :
    Authorship.Resolves (.only replies) token i ↔ Sequential.identity replies token = i := by
  rw [Authorship.resolves_only_iff, Authorship.identify, Sequential.identity]
  split <;> exact Iff.rfl

theorem mem_authors_iff {v : Version} {i : Identity} :
    i ∈ Sequential.authors replies v ↔ Authorship.Names (.only replies) v i := by
  rw [Sequential.authors, Authorship.Names]
  cases v.header.authors? with
  | none => simp [Roster.not_mem_empty]
  | some list => simp [resolves_only_iff_identity]

/-- The proposal that a version amounts to has the authors found without a directory. -/
theorem proposalOf_yields_only {v : Version} {p : Proposal}
    (h : (Authorship.proposalOf v).Yields (.only replies) p) :
    p = .ofVersion v (Sequential.authors replies v) := by
  obtain ⟨hp, hnamed, -⟩ := Authorship.proposalOf_yields h
  have hauthors : p.authors = Sequential.authors replies v := by
    refine Roster.eq_of_mem_iff fun i => ?_
    rw [mem_authors_iff]
    exact ⟨hnamed i, fun hi => hi.mem (Forge.Answers.settled_only replies) h⟩
  rw [← hauthors]
  exact hp

theorem version_yields_only {path commit : String} {r : Except Violation Version}
    (h : (Retrieval.version path commit).Yields (.only replies) r) :
    r = Sequential.version replies path commit := by
  obtain ⟨_, rfl, rfl⟩ := h
  rfl

/-- **Every changed file has one report**, whatever else is going on. -/
theorem Reported.eq_report {r : Report} (h : Reported (.only replies) pr c r) :
    r = Sequential.report replies pr c := by
  rw [Sequential.report, Sequential.verdict]
  obtain hrefusal | ⟨hrefusal, hversions⟩ | ⟨hrefusal, hbase, hhead, hp⟩ := h
  · rw [hrefusal]
  · obtain ⟨base, head, hbase, hhead, htogether⟩ := Retrieval.versions_yields_iff.1 hversions
    obtain rfl := version_yields_only hbase
    obtain rfl := version_yields_only hhead
    rw [hrefusal]
    -- one of them at least is not there
    cases hb : Sequential.version replies c.basePath pr.baseCommit <;>
      cases hh : Sequential.version replies c.path pr.headCommit <;>
        simp_all [Retrieval.together]
  · have hb := version_yields_only (Retrieval.version_yields_ok_iff.2 hbase)
    have hh := version_yields_only (Retrieval.version_yields_ok_iff.2 hhead)
    rw [hrefusal, ← hb, ← hh, proposalOf_yields_only hp]

/-- However the files are judged, the reports are those of the files, each once. -/
theorem reports_perm {changes : List Change} {inOrder reports : List Report}
    (hreported : List.Forall₂ (Reported (.only replies) pr) changes inOrder)
    (hperm : reports.Perm inOrder) : reports.Perm (changes.map (Sequential.report replies pr)) := by
  have heq : inOrder = changes.map (Sequential.report replies pr) :=
    Program.eq_map_of_forall₂ hreported fun _ _ _ hc => hc.eq_report
  rwa [← heq]

/-! ## The run -/

theorem map_path_report (changes : List Change) :
    (changes.map (Sequential.report replies pr)).map Report.path = changes.map Change.path := by
  rw [List.map_map]
  rfl

/-- A comparison of a pull request that can be merged lists no path twice. -/
def ListsOnce (replies : (c : Call) → Reply c) (number : Nat) : Prop :=
  ∀ pr changes, replies (.pullRequest number) = .ok pr →
    replies (.compare pr.baseCommit pr.headCommit) = .ok changes →
      (changes.map Change.path).Nodup

theorem Concludes.eq_run {result : Except Error Run} (h : Concludes (.only replies) number result)
    (honce : ListsOnce replies number) : result = Sequential.run replies number := by
  rw [Sequential.run]
  obtain hpr | ⟨hpr, hstate⟩ | ⟨hpr, hstate, hcompare⟩ | @⟨pr, changes, inOrder, reports, reviews,
    hpr, hstate, hcompare, hreported, hperm, hreviews⟩ := h
  · have hpr : replies (.pullRequest number) = .error _ := hpr
    simp [hpr, bind, Except.bind]
  · have hpr : replies (.pullRequest number) = .ok _ := hpr
    simp [hpr, hstate, bind, Except.bind]
  · have hpr : replies (.pullRequest number) = .ok _ := hpr
    have hcompare : replies (.compare _ _) = .error _ := hcompare
    simp [hpr, hstate, hcompare, bind, Except.bind]
  · have hpr : replies (.pullRequest number) = .ok pr := hpr
    have hcompare : replies (.compare _ _) = .ok changes := hcompare
    have hreviews : replies (.reviews pr.number) = reviews := hreviews
    have hreports := reports_perm hreported hperm
    have hpaths : (reports.map Report.path).Nodup := by
      rw [(hreports.map Report.path).nodup_iff, map_path_report]
      exact honce pr changes hpr hcompare
    simp [hpr, hstate, hcompare, Sequential.decision, hreviews,
      Decision.ofReports_eq_of_perm hreports hpaths, bind, Except.bind]

/-- **The result of a run does not depend on the schedule.** Let the reply to a call depend on the
call alone. No order of the steps goes on for ever or gets stuck; every run comes to what the files
judged one after the other come to, however many of them may be judged at the same time (and if it
may be none, it is one); and every changed file has exactly one report, wherever it comes. -/
theorem schedule_independent {σ : Type} {forge : Forge σ} {replies : (c : Call) → Reply c}
    (hforge : ∀ c s, (forge c s).1 = replies c) {number : Nat} (honce : ListsOnce replies number) :
    (∀ concurrency,
      (¬ ∃ states : Nat → Program (Except Error Run), states 0 = run number concurrency ∧
        ∀ n, ∃ t, Step (states n) t (states (n + 1))) ∧
      (∀ t p s, Steps (run number concurrency) t p →
        ∃ t' result s', RunsTo forge s p t' result s') ∧
      ∀ state t result s', RunsTo forge (.start state) (run number concurrency) t result s' →
        result = Sequential.run replies number) ∧
      run number 0 = run number 1 ∧
      ∀ width pr changes state t reports s',
        RunsTo forge (.start state) (Program.forAll width changes (report pr)) t reports s' →
          reports.Perm (changes.map (Sequential.report replies pr)) := by
  have hanswers : ∀ c s, Answers.only replies c (forge c s).1 := fun c s => (hforge c s).symm
  refine ⟨fun concurrency => ⟨Program.not_endless _, ?_, ?_⟩, rfl, ?_⟩
  · intro t p s h
    exact (run_live number concurrency).ends forge h s
  · intro state t result s' h
    exact (concludes_of_runsTo h (h.meets hanswers)).eq_run honce
  · intro width pr changes state t reports s' h
    obtain ⟨inOrder, hinOrder, hperm⟩ := Program.yields_forAll.1 (h.ends.yields (h.meets hanswers))
    exact reports_perm (hinOrder.imp fun _ _ => report_yields_iff.1) hperm

/-! ## Two files that name one contact -/

/-- Another file with the same text. -/
def otherFile : Change :=
  ⟨"EIPS/eip-8.md", none, .modified⟩

/-- A forge with a pull request that changes both files. Searches and listings of reviews take too
long. -/
def pairReplies : (c : Call) → Reply c
  | .compare .. => .ok [editedFile, otherFile]
  | c => editReplies (fun _ _ => draft) (some (.timeout (.seconds 30))) c

theorem listsOnce_pair : ListsOnce pairReplies 1 := by
  intro pr changes _ hcompare
  obtain rfl : [editedFile, otherFile] = changes := Except.ok.inj hcompare
  decide

/-- The two files are judged to the same end in turn and at the same time. -/
theorem schedule_independent_pair : ∃ t t' result result' s s',
    RunsTo (Forge.steady pairReplies) (.start ()) (run 1 0) t result s ∧
      RunsTo (Forge.steady pairReplies) (.start ()) (run 1 2) t' result' s' ∧
      result = Sequential.run pairReplies 1 ∧ result' = Sequential.run pairReplies 1 := by
  have hforge : ∀ c s, (Forge.steady pairReplies c s).1 = pairReplies c := fun _ _ => rfl
  obtain ⟨hall, -⟩ := schedule_independent hforge listsOnce_pair
  obtain ⟨-, hends, hresult⟩ := hall 0
  obtain ⟨-, hends', hresult'⟩ := hall 2
  obtain ⟨t, result, s, h⟩ := hends [] _ (.start ()) (.refl _)
  obtain ⟨t', result', s', h'⟩ := hends' [] _ (.start ()) (.refl _)
  exact ⟨t, t', result, result', s, s', h, h', hresult _ _ _ _ h, hresult' _ _ _ _ h'⟩

end Engine

end ProposalGate
