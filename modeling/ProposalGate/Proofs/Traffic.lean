import ProposalGate.Proofs.Schedule.Sequence
import ProposalGate.Proofs.Schedule.Tally
import ProposalGate.Proofs.Sequential

/-!
# What a run asks of a forge

A run loads the pull request and compares its commits. If either fails, or the pull request is not
open, that was all. Otherwise it lists the reviews, and of every changed file that is not refused
beforehand it fetches the two versions. If both are there then the base version has authors, and a
contact among them is searched for, once in the whole run, however many files name it
(`run_traffic`).

None of this depends on the order in which anything happens, and since every part of a run is the
beginning of a whole run, the traffic of a part is never anything else either.
-/

namespace ProposalGate

open Forge (Call Event Footprint History Program Reply Trace)
open Forge.Program (RunsTo Steps Tallies)

variable {m : Multiset Event}

/-! ## Authors -/

namespace Authorship

/-- The texts by which some tokens are looked up: those of contacts, but not of logins. -/
def searched (tokens : List String) : List String :=
  (tokens.filter fun token => !isLogin token).map searchKey

/-- The tokens of the author list of a version. -/
def tokensOf (v : Version) : List String :=
  v.header.authors?.elim [] AuthorList.tokens

theorem searched_append (tokens tokens' : List String) :
    searched (tokens ++ tokens') = searched tokens ++ searched tokens' := by
  rw [searched, List.filter_append, List.map_append, searched, searched]

theorem searched_flatMap {α : Type} (as : List α) (tokens : α → List String) :
    searched (as.flatMap tokens) = as.flatMap fun a => searched (tokens a) := by
  rw [searched, List.filter_flatMap, List.map_flatMap]
  rfl

/-- A handle takes no look-up, and a contact one. -/
theorem footprint_identify {token : String} {i : Identity} (h : (identify token).Tallies m i) :
    Footprint m [] (searched [token]) := by
  rw [identify] at h
  split at h
  · next hlogin =>
    obtain ⟨rfl, -⟩ := h
    have hnone : searched [token] = [] := by simp [searched, hlogin]
    rw [hnone]
    exact .zero
  · next hcontact =>
    obtain ⟨reply, m₁, m₂, hfind, ⟨rfl, -⟩, rfl⟩ := Tallies.of_bind h
    obtain rfl := Tallies.of_find hfind
    have hone : searched [token] = [searchKey token] := by simp [searched, hcontact]
    rw [hone, add_zero]
    exact .lookedUp _ reply

/-- An author list takes a look-up for each contact on it. -/
theorem footprint_authorsOf {list : String} {r : Roster} (h : (authorsOf list).Tallies m r) :
    Footprint m [] (searched (AuthorList.tokens list)) := by
  obtain ⟨identities, m₁, m₂, hall, ⟨rfl, -⟩, rfl⟩ := Tallies.of_bind h
  have htokens := Footprint.forAll hall fun _ _ _ => footprint_identify
  rw [← searched_flatMap, List.flatMap_singleton'] at htokens
  rwa [add_zero]

/-- So does a version, for the authors it names. -/
theorem footprint_proposalOf {v : Version} {p : Proposal} (h : (proposalOf v).Tallies m p) :
    Footprint m [] (searched (tokensOf v)) := by
  rw [proposalOf] at h
  rw [tokensOf]
  cases hlist : v.header.authors? with
  | none =>
    simp only [hlist] at h
    obtain ⟨rfl, -⟩ := h
    exact .zero
  | some list =>
    simp only [hlist] at h
    obtain ⟨authors, m₁, m₂, hauthors, ⟨rfl, -⟩, rfl⟩ := Tallies.of_bind h
    rw [add_zero]
    exact footprint_authorsOf hauthors

end Authorship

namespace Engine

variable {pr : PullRequest} {c : Change} {number concurrency : Nat}

/-! ## One file -/

/-- A changed file whose versions are fetched, and the replies to that. -/
structure Reading (pr : PullRequest) where
  /-- the file -/
  change : Change
  /-- the path of its base version -/
  basePath : String
  /-- it was there at base -/
  was_at : change.WasAt basePath
  /-- the reply that its base version was fetched with -/
  base : Reply (.file basePath pr.baseCommit)
  /-- the reply that its head version was fetched with -/
  head : Reply (.file change.path pr.headCommit)

namespace Reading

/-- The two fetches, as they happen. -/
def events (r : Reading pr) : List Event :=
  [.called (.file r.basePath pr.baseCommit) r.base,
    .called (.file r.change.path pr.headCommit) r.head]

/-- The two fetches, as calls. -/
def fetches (r : Reading pr) : List Call :=
  [.file r.basePath pr.baseCommit, .file r.change.path pr.headCommit]

/-- The contacts to be searched for: those whom the base version names as authors, if both versions
are obtained. -/
def contacts (r : Reading pr) : List String :=
  match Retrieval.versionOfReply _ _ r.base, Retrieval.versionOfReply _ _ r.head with
  | .ok base, .ok _ => Authorship.searched (Authorship.tokensOf base)
  | _, _ => []

/-- Fetching the two versions takes no look-up. -/
theorem footprint_events (r : Reading pr) : Footprint r.events r.fetches [] :=
  (Footprint.called _ r.base).add (Footprint.called _ r.head)

end Reading

/-- Some changed files are read in some events: each that is not refused, once. -/
structure Reads (changes : List Change) (readings : List (Reading pr)) (m : Multiset Event) :
    Prop where
  /-- these are the files -/
  changes_eq : readings.map Reading.change = changes.filter fun c => (Rules.refusal? c).isNone
  /-- the fetches are among the events -/
  events_le : (readings.flatMap Reading.events : Multiset Event) ≤ m
  /-- nothing else is asked of the forge than the fetches and the contacts -/
  footprint : Footprint m (readings.flatMap Reading.fetches) (readings.flatMap Reading.contacts)

/-- Files that are read one after the other leave their traces together. -/
theorem Reads.append {changes changes' : List Change} {readings readings' : List (Reading pr)}
    {m' : Multiset Event} (h : Reads changes readings m) (h' : Reads changes' readings' m') :
    Reads (changes ++ changes') (readings ++ readings') (m + m') where
  changes_eq := by rw [List.map_append, h.changes_eq, h'.changes_eq, List.filter_append]
  events_le := by
    rw [List.flatMap_append, ← Multiset.coe_add]
    exact add_le_add h.events_le h'.events_le
  footprint := by
    rw [List.flatMap_append, List.flatMap_append]
    exact h.footprint.add h'.footprint

/-- A version takes one call. -/
theorem tallies_version {path commit : String} {v : Except Violation Version}
    (h : (Retrieval.version path commit).Tallies m v) :
    ∃ reply, m = {.called (.file path commit) reply} ∧
      v = Retrieval.versionOfReply path commit reply := by
  obtain ⟨reply, m₁, m₂, hcall, ⟨rfl, rfl⟩, rfl⟩ := Tallies.of_bind h
  obtain rfl := Tallies.of_call hcall
  exact ⟨reply, add_zero _, rfl⟩

/-- Retrieving the versions of a file is reading it. -/
theorem tallies_versions {v : Except (List Violation) (Version × Version)}
    (h : (Retrieval.versions c pr.baseCommit pr.headCommit).Tallies m v) :
    ∃ r : Reading pr, r.change = c ∧ m = r.events ∧
      v = Retrieval.together (Retrieval.versionOfReply _ _ r.base)
        (Retrieval.versionOfReply _ _ r.head) := by
  obtain ⟨⟨base, head⟩, m₁, m₂, hpair, ⟨rfl, rfl⟩, rfl⟩ := Tallies.of_bind h
  obtain ⟨n₁, n₂, hbase, hhead, rfl⟩ := Tallies.of_pair hpair
  obtain ⟨base, rfl, rfl⟩ := tallies_version hbase
  obtain ⟨head, rfl, rfl⟩ := tallies_version hhead
  exact ⟨⟨c, c.basePath, Change.wasAt_iff.2 rfl, base, head⟩, rfl, add_zero _, rfl⟩

/-- To report on a file is to read it, unless it is refused. -/
theorem reads_report {report : Report} (h : (Engine.report pr c).Tallies m report) :
    ∃ readings : List (Reading pr), Reads [c] readings m := by
  rw [Engine.report] at h
  cases hrefusal : Rules.refusal? c with
  | some violation =>
    rw [hrefusal] at h
    obtain ⟨rfl, -⟩ := h
    exact ⟨[], by simp [hrefusal], le_refl _, .zero⟩
  | none =>
    rw [hrefusal] at h
    obtain ⟨versions, m₁, m₂, hversions, hrest, rfl⟩ := Tallies.of_bind h
    obtain ⟨r, rfl, rfl, hboth⟩ := tallies_versions hversions
    have hcontacts : Footprint m₂ [] r.contacts := by
      rw [Reading.contacts]
      rcases versions with violations | ⟨base, head⟩
      · obtain ⟨rfl, -⟩ := hrest
        split
        · next hbase hhead => simp [hbase, hhead, Retrieval.together] at hboth
        · exact .zero
      · obtain ⟨hbase, hhead⟩ := Retrieval.together_eq_ok_iff.1 hboth.symm
        obtain ⟨p, n₁, n₂, hp, ⟨rfl, -⟩, rfl⟩ := Tallies.of_bind hrest
        rw [hbase, hhead, add_zero]
        exact Authorship.footprint_proposalOf hp
    refine ⟨[r], by simp [hrefusal], ?_, ?_⟩
    · rw [List.flatMap_singleton]
      exact Multiset.le_add_right ..
    · rw [List.flatMap_singleton, List.flatMap_singleton, ← List.append_nil r.fetches]
      exact r.footprint_events.add hcontacts

/-- To report on some files is to read those that are not refused. -/
theorem reads_forAll {width : Nat} {changes : List Change} {reports : List Report}
    (h : (Program.forAll width changes (report pr)).Tallies m reports) :
    ∃ readings : List (Reading pr), Reads changes readings m := by
  obtain ⟨parts, hparts, -, rfl⟩ := Tallies.of_forAll h
  clear h
  induction hparts with
  | nil => exact ⟨[], rfl, le_refl _, .zero⟩
  | cons hc _ ih =>
    obtain ⟨reading, hreading⟩ := reads_report hc
    obtain ⟨readings, hreadings⟩ := ih
    exact ⟨reading ++ readings, hreading.append hreadings⟩

/-! ## The run -/

/-- **The traffic of a run**, given what happened in it and what it came to: exactly these calls, in
some order. -/
inductive Traffic (number : Nat) (m : Multiset Event) :
    Except Error Run → List Call → Prop where
  /-- the pull request cannot be loaded -/
  | unloaded {e : Error} : .called (.pullRequest number) (.error e) ∈ m →
      Traffic number m (.error e) [.pullRequest number]
  /-- it is not open -/
  | unopened {pr : PullRequest} {e : Error} : .called (.pullRequest number) (.ok pr) ∈ m →
      pr.state ≠ .opened → Traffic number m (.error e) [.pullRequest number]
  /-- its commits cannot be compared -/
  | uncompared {pr : PullRequest} {e : Error} : .called (.pullRequest number) (.ok pr) ∈ m →
      pr.state = .opened → .called (.compare pr.baseCommit pr.headCommit) (.error e) ∈ m →
      Traffic number m (.error e)
        [.pullRequest number, .compare pr.baseCommit pr.headCommit]
  /-- its files are read and its reviews are listed -/
  | judged {pr : PullRequest} {changes : List Change} {readings : List (Reading pr)}
      {decision : Decision} : .called (.pullRequest number) (.ok pr) ∈ m → pr.state = .opened →
      .called (.compare pr.baseCommit pr.headCommit) (.ok changes) ∈ m →
      readings.map Reading.change = changes.filter (fun c => (Rules.refusal? c).isNone) →
      (readings.flatMap Reading.events : Multiset Event) ≤ m →
      Traffic number m (.ok ⟨pr, decision⟩)
        ([.pullRequest number, .compare pr.baseCommit pr.headCommit, .reviews pr.number]
          ++ readings.flatMap Reading.fetches
          ++ (readings.flatMap Reading.contacts).dedup.map .users)

theorem tallies_approversOf {roster : Roster} (h : (approversOf pr).Tallies m roster) :
    Footprint m [.reviews pr.number] [] := by
  obtain ⟨reply, m₁, m₂, hcall, ⟨rfl, -⟩, rfl⟩ := Tallies.of_bind h
  obtain rfl := Tallies.of_call hcall
  rw [add_zero]
  exact .called _ reply

/-- To decide is to read the files and to list the reviews. -/
theorem reads_decide {changes : List Change} {decision : Decision}
    (h : (decide pr changes concurrency).Tallies m decision) :
    ∃ readings : List (Reading pr),
      readings.map Reading.change = changes.filter (fun c => (Rules.refusal? c).isNone) ∧
        (readings.flatMap Reading.events : Multiset Event) ≤ m ∧
        Footprint m (.reviews pr.number :: readings.flatMap Reading.fetches)
          (readings.flatMap Reading.contacts) := by
  obtain ⟨⟨reports, roster⟩, m₁, m₂, hpair, ⟨rfl, -⟩, rfl⟩ := Tallies.of_bind h
  obtain ⟨n₁, n₂, hreports, happrovers, rfl⟩ := Tallies.of_pair hpair
  obtain ⟨readings, hreads⟩ := reads_forAll hreports
  rw [add_zero, add_comm n₁ n₂]
  refine ⟨readings, hreads.changes_eq, hreads.events_le.trans (Multiset.le_add_left ..), ?_⟩
  exact (tallies_approversOf happrovers).add hreads.footprint

/-- What happens in a run amounts to its traffic. -/
theorem traffic_of_tallies {result : Except Error Run}
    (h : (run number concurrency).Tallies m result) :
    ∃ calls : List Call, Traffic number m result calls ∧ Forge.calls m = calls := by
  obtain ⟨loaded, _, m₁, hload, hloaded, rfl⟩ := Tallies.of_bind h
  obtain rfl := Tallies.of_call hload
  have hpr := Footprint.called (.pullRequest number) loaded
  rcases loaded with e | pr
  · obtain ⟨rfl, rfl⟩ := hloaded
    rw [add_zero]
    exact ⟨_, .unloaded (Multiset.mem_singleton_self _), hpr.calls_eq⟩
  cases hstate : stateError? number pr.state with
  | some e =>
    simp only [hstate] at hloaded
    obtain ⟨rfl, rfl⟩ := hloaded
    rw [add_zero]
    refine ⟨_, .unopened (Multiset.mem_singleton_self _) fun hopened => ?_, hpr.calls_eq⟩
    rw [stateError?_eq_none_iff.2 hopened] at hstate
    cases hstate
  | none =>
    simp only [hstate] at hloaded
    have hopened := stateError?_eq_none_iff.1 hstate
    obtain ⟨compared, _, m₂, hcompare, hcompared, rfl⟩ := Tallies.of_bind hloaded
    obtain rfl := Tallies.of_call hcompare
    have hboth := hpr.add (Footprint.called (.compare pr.baseCommit pr.headCommit) compared)
    rcases compared with e | changes
    · obtain ⟨rfl, rfl⟩ := hcompared
      rw [add_zero]
      exact ⟨_, .uncompared (by simp) hopened (by simp), hboth.calls_eq⟩
    · obtain ⟨decision, m₃, _, hdecide, ⟨rfl, rfl⟩, rfl⟩ := Tallies.of_bind hcompared
      obtain ⟨readings, hchanges, hevents, hread⟩ := reads_decide hdecide
      rw [add_zero, ← add_assoc]
      exact ⟨_, .judged (by simp) hopened (by simp) hchanges
        (hevents.trans (Multiset.le_add_left ..)), (hboth.add hread).calls_eq⟩

/-- The calls of every run are those of its traffic, in some order. -/
theorem traffic_of_runsTo {σ : Type} {forge : Forge σ} {state : σ} {t : Trace}
    {result : Except Error Run} {s' : Program.Session σ}
    (h : RunsTo forge (.start state) (run number concurrency) t result s') :
    ∃ calls, Traffic number t result calls ∧ s'.calls.Perm calls := by
  obtain ⟨calls, htraffic, hcalls⟩ := traffic_of_tallies h.ends.tallies
  refine ⟨calls, htraffic, Multiset.coe_eq_coe.1 ?_⟩
  rw [h.calls_eq, hcalls]

/-- A run only reads, and neither who it is nor what has been said. -/
theorem Traffic.reads {result : Except Error Run} {calls : List Call}
    (h : Traffic number m result calls) {c : Call} (hc : c ∈ calls) :
    c.isWrite = false ∧ c ≠ .currentUser ∧ ∀ n, c ≠ .comments n := by
  cases h with
  | unloaded | unopened =>
    obtain rfl := List.mem_singleton.1 hc
    simp [Call.isWrite]
  | uncompared => rcases List.mem_pair.1 hc with rfl | rfl <;> simp [Call.isWrite]
  | judged =>
    simp only [List.mem_append, List.mem_cons, List.not_mem_nil, or_false, List.mem_flatMap,
      Reading.fetches, List.mem_map] at hc
    rcases hc with (hc | ⟨r, -, hc⟩) | ⟨contact, -, rfl⟩
    · rcases hc with rfl | rfl | rfl <;> simp [Call.isWrite]
    · rcases hc with rfl | rfl <;> simp [Call.isWrite]
    · simp [Call.isWrite]

/-- A run writes nothing, and reads neither comments nor its own account. -/
theorem reads_of_runsTo {σ : Type} {forge : Forge σ} {state : σ} {t : Trace}
    {result : Except Error Run} {s' : Program.Session σ}
    (h : RunsTo forge (.start state) (run number concurrency) t result s') {c : Call}
    (hc : c ∈ s'.calls) : c.isWrite = false ∧ c ≠ .currentUser ∧ ∀ n, c ≠ .comments n := by
  obtain ⟨calls, htraffic, hperm⟩ := traffic_of_runsTo h
  exact htraffic.reads (hperm.subset hc)

/-- **The traffic of a run is exactly what its replies call for**, in whatever order anything
happens. Whatever part of a run is over, it is the beginning of a whole run, so it has made no other
calls either; and none of them is a write, or asks for the login of the bot or for comments. -/
theorem run_traffic {σ : Type} (forge : Forge σ) (state : σ) (number concurrency : Nat) :
    (∀ t result s', RunsTo forge (.start state) (run number concurrency) t result s' →
      ∃ calls, Traffic number t result calls ∧ s'.calls.Perm calls) ∧
    ∀ t p s, Steps (run number concurrency) t p → History forge (.start state) t s →
      (∃ t' result s', RunsTo forge (.start state) (run number concurrency) (t ++ t') result s' ∧
        s.calls <+: s'.calls) ∧
      ∀ c ∈ s.calls, c.isWrite = false ∧ c ≠ .currentUser ∧ ∀ n, c ≠ .comments n := by
  refine ⟨fun t result s' h => traffic_of_runsTo h, fun t p s hsteps hhistory => ?_⟩
  obtain ⟨t', result, s', hends, hrest⟩ := (run_live number concurrency).ends forge hsteps s
  have hrun : RunsTo forge (.start state) (run number concurrency) (t ++ t') result s' :=
    ⟨hsteps.trans hends, hhistory.append hrest⟩
  have hbefore := hrest.calls_prefix
  refine ⟨⟨t', result, s', hrun, hbefore⟩, fun c hc => ?_⟩
  exact reads_of_runsTo hrun (hbefore.subset hc)

/-! ## Three files -/

/-- The reading of a file where the reply to a call depends on the call alone. -/
def Reading.ofReplies (replies : (c : Call) → Reply c) (pr : PullRequest) (c : Change) :
    Reading pr :=
  ⟨c, c.basePath, Change.wasAt_iff.2 rfl, replies (.file c.basePath pr.baseCommit),
    replies (.file c.path pr.headCommit)⟩

/-- On a forge that replies the same at all times, a file is read in one way only. -/
theorem Reading.eq_ofReplies {replies : (c : Call) → Reply c} {readings : List (Reading pr)}
    (h : ∀ e ∈ readings.flatMap Reading.events, e.Meets (.only replies)) :
    readings = (readings.map Reading.change).map (Reading.ofReplies replies pr) := by
  induction readings with
  | nil => rfl
  | cons r readings ih =>
    rw [List.flatMap_cons, List.forall_mem_append] at h
    obtain ⟨hr, hreadings⟩ := h
    obtain ⟨c, path, hwas, base, head⟩ := r
    obtain rfl := Change.wasAt_iff.1 hwas
    have hbase : replies (.file c.basePath pr.baseCommit) = base :=
      hr (.called _ base) (List.mem_cons_self ..)
    have hhead : replies (.file c.path pr.headCommit) = head :=
      hr (.called _ head) (List.mem_cons_of_mem _ (List.mem_cons_self ..))
    rw [List.map_cons, List.map_cons, ← ih hreadings, Reading.ofReplies, hbase, hhead]

/-- A new file with the path of a proposal. -/
def newFile : Change :=
  ⟨"EIPS/eip-9.md", none, .added⟩

/-- A forge with a pull request that moves one draft, edits another and adds a file. Both drafts name
the same contact. -/
def threeReplies : (c : Call) → Reply c
  | .compare .. => .ok [movedFile, otherFile, newFile]
  | c => editReplies (fun _ _ => draft) none c

/-- The draft that was moved is fetched from where it was, nothing is fetched of the new file, and
there is one search. -/
theorem run_traffic_three : ∃ t result s',
    RunsTo (Forge.steady threeReplies) (.start ()) (run 1 8) t result s' ∧
      s'.calls.Perm [.pullRequest 1, .compare "base" "head", .reviews 1,
        .file "EIPS/eip-draft.md" "base", .file "EIPS/eip-7.md" "head",
        .file "EIPS/eip-8.md" "base", .file "EIPS/eip-8.md" "head", .users "bob@example.org"] := by
  obtain ⟨t, h⟩ := Program.runsTo_run (Forge.steady threeReplies) (run_live 1 8) (.start ())
  have hmeets := h.meets_only
  obtain ⟨calls, htraffic, hperm⟩ := (run_traffic (Forge.steady threeReplies) () 1 8).1 _ _ _ h
  refine ⟨t, _, _, h, ?_⟩
  generalize ((run 1 8).run (Forge.steady threeReplies) (.start ())).1 = result at htraffic
  obtain hpr | ⟨hpr, hstate⟩ | ⟨hpr, -, hcompare⟩ | ⟨hpr, -, hcompare, hchanges, hevents⟩ :=
    htraffic
  · cases (hmeets _ hpr : Except.ok edit = .error _)
  · obtain rfl := Except.ok.inj (hmeets _ hpr : Except.ok edit = .ok _)
    exact absurd rfl hstate
  · cases (hmeets _ hcompare : Except.ok [movedFile, otherFile, newFile] = .error _)
  · obtain rfl := Except.ok.inj (hmeets _ hpr : Except.ok edit = .ok _)
    obtain rfl := Except.ok.inj
      (hmeets _ hcompare : Except.ok [movedFile, otherFile, newFile] = .ok _)
    have hreadings := Reading.eq_ofReplies fun e he => hmeets e (Multiset.mem_of_le hevents he)
    rw [hchanges] at hreadings
    rw [hreadings] at hperm
    refine hperm.trans (List.Perm.of_eq ?_)
    decide +kernel

end Engine

end ProposalGate
