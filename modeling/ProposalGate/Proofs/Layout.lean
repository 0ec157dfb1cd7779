import ProposalGate.Notice
import ProposalGate.Proofs.Account
import ProposalGate.Proofs.Conservation
import ProposalGate.Proofs.Sequential
import ProposalGate.Proofs.Text.Feeds

/-!
# How the comment is laid out

The comment has a marker line, an introduction, an empty line, and then the violations, each an item
of its own (`Notice.pieces_body`). The wording of an item is on one line; what else a violation shows
(`Violation.shown`) is shown as it is, so the item takes one more line for every line feed in it
(`Violation.feeds_text`), and the comment has one line for each violation exactly if there is none
(`Notice.pieces_body_eq_iff`).

`Source` says where such a line feed can come from. In a run, a violation has its line feeds from one
changed file: from its paths, commits, statuses and authors, from the encoding its content declares,
or from the error that the call for it ended with (`Engine.comment_layout`). Nothing keeps a header
from having a status of several lines, and the second of them from looking like an item
(`Engine.comment_forged`).
-/

namespace ProposalGate

open Forge (Answers Call Reply)
open Forge.Program (RunsTo)
open Retrieval (Obtained)

/-! ## Line feeds in a violation -/

/-- What the wording of a reason shows of other texts. -/
def MissingContent.shown : MissingContent → List String
  | .undecodable reason | .request reason => [reason]
  | _ => []

/-- What the line of a violation shows of other texts, numbers apart. -/
def Violation.shown : Violation → List String
  | .invalidFilename path | .newFileRequiresReview path => [path]
  | .headerFilenameMismatch path .. | .proposalNumberChanged path .. => [path]
  | .illegalStatusChange path before after => path :: (before.toList ++ after.toList)
  | .statusNotEditable path status => path :: status.toList
  | .remoteContentMissing path commit reason => path :: commit :: reason.shown
  | .unsupportedEncoding path commit encoding => [path, commit, encoding]
  | .noIdentifiableAuthors _ => []
  | .missingAuthorApproval _ authors => authors.map Identity.text

open Text (feeds pieces)

theorem Violation.feeds_textOrNone (text : Option String) :
    feeds (textOrNone text) = (text.toList.map feeds).sum := by
  cases text with
  | none => decide +kernel
  | some s => simp [textOrNone]

theorem Violation.feeds_numberOrNone (n : Option Nat) : feeds (numberOrNone n) = 0 := by
  cases n with
  | none => decide +kernel
  | some n => exact Text.feeds_toString_nat n

theorem Proposal.feeds_numberText (n : Nat) : feeds (numberText n) = 0 := by
  unfold numberText
  simp only [Text.feeds_append, Text.feeds_toString, Text.feeds_toString_nat]
  -- what is left is the fixed wording; whether it has a line feed is decided on its characters
  simp (disch := (rw [String.toList_ofList]; decide)) only [Text.feeds_eq_zero]

theorem Base64.Fault.feeds_message (fault : Fault) : feeds fault.message = 0 := by
  cases fault <;> unfold message <;>
    simp only [Text.feeds_append, Text.feeds_toString, Text.feeds_toString_nat]
  all_goals simp (disch := (rw [String.toList_ofList]; decide)) only [Text.feeds_eq_zero]

theorem Hex.Fault.feeds_message (fault : Fault) : feeds fault.message = 0 := by
  cases fault <;> unfold message <;>
    simp only [Text.feeds_append, Text.feeds_toString, Text.feeds_toString_nat]
  all_goals simp (disch := (rw [String.toList_ofList]; decide)) only [Text.feeds_eq_zero]

/-- A fault of an encoding is worded without line feeds: it shows numbers only. -/
theorem DecodeFault.feeds_message (fault : DecodeFault) : feeds fault.message = 0 := by
  cases fault with
  | base64 fault => exact fault.feeds_message
  | hex fault => exact fault.feeds_message

/-- The line feeds of a reason are those of the texts it shows. -/
theorem MissingContent.feeds_text (m : MissingContent) :
    feeds m.text = (m.shown.map feeds).sum := by
  cases m <;> unfold text shown <;>
    simp only [Text.feeds_append, Text.feeds_toString, List.map_cons, List.map_nil, List.sum_cons,
      List.sum_nil]
  all_goals simp (disch := (rw [String.toList_ofList]; decide)) only [Text.feeds_eq_zero]
  all_goals omega

/-- **The line of a violation** has the line feeds of what it shows, and no others. -/
theorem Violation.feeds_text (v : Violation) : feeds v.text = (v.shown.map feeds).sum := by
  have hseparator : feeds ", " = 0 := by decide +kernel
  have hstatuses : (Policy.editableStatuses.map feeds).sum = 0 := by decide +kernel
  cases v <;> unfold text shown <;>
    simp only [Text.feeds_append, Text.feeds_toString, feeds_textOrNone, feeds_numberOrNone,
      Proposal.feeds_numberText, MissingContent.feeds_text, Text.feeds_intercalate hseparator,
      hstatuses, List.map_cons, List.map_append, List.map_nil, List.sum_cons, List.sum_append,
      List.sum_nil]
  all_goals simp (disch := (rw [String.toList_ofList]; decide)) only [Text.feeds_eq_zero]
  all_goals omega

/-- A message is on one line exactly if everything it shows is. -/
theorem Violation.feeds_text_eq_zero_iff {v : Violation} :
    feeds v.text = 0 ↔ ∀ s ∈ v.shown, '\n' ∉ s.toList := by
  rw [feeds_text, List.sum_eq_zero_iff_forall_eq_nat, List.forall_mem_map]
  simp only [Text.feeds_eq_zero_iff]

/-! ## The lines of a comment -/

namespace Notice

/-- What stands above the violations. -/
def preamble : List String := [marker, introduction, ""]

/-- The item of a violation. -/
def item (v : Violation) : String :=
  "- " ++ v.text

variable {violations : List Violation}

theorem feeds_item (v : Violation) : feeds (item v) = feeds v.text := by
  have hbullet : feeds "- " = 0 := by decide +kernel
  rw [item, Text.feeds_append, hbullet, Nat.zero_add]

/-- The lines of a comment are those of its items, and an empty one at the end. -/
theorem pieces_lines (violations : List Violation) :
    pieces (String.join (violations.map line)) =
      violations.flatMap (fun v => pieces (item v)) ++ [""] := by
  induction violations with
  | nil => rfl
  | cons v rest ih =>
    rw [List.map_cons, String.join_cons, line, ← item, Text.pieces_append_feed, ih,
      List.flatMap_cons, List.append_assoc]

/-- **A comment** is made of the preamble and the items of the violations, one after the other, and
ends with a line feed. -/
theorem pieces_body (violations : List Violation) :
    pieces (body violations) =
      preamble ++ violations.flatMap (fun v => pieces (item v)) ++ [""] := by
  have hbody : body violations = marker ++ "\n" ++
      (introduction ++ "\n" ++ ("" ++ "\n" ++ String.join (violations.map line))) := by
    have hbreak : "\n\n" = "\n" ++ ("" ++ "\n") := by decide +kernel
    rw [body, hbreak]
    simp only [String.append_assoc]
  have hmarker : pieces marker = [marker] := Text.pieces_eq_singleton_iff.2 (by decide +kernel)
  have hintroduction : pieces introduction = [introduction] :=
    Text.pieces_eq_singleton_iff.2 (by decide +kernel)
  have hnone : pieces "" = [""] := by decide +kernel
  rw [hbody, Text.pieces_append_feed, Text.pieces_append_feed, Text.pieces_append_feed,
    pieces_lines, hmarker, hintroduction, hnone]
  rfl

/-- There are as many lines of items as violations and line feeds in them together. -/
theorem length_items (violations : List Violation) :
    (violations.flatMap fun v => pieces (item v)).length =
      violations.length + (violations.map fun v => feeds v.text).sum := by
  induction violations with
  | nil => rfl
  | cons v rest ih =>
    rw [List.flatMap_cons, List.length_append, Text.length_pieces, feeds_item, ih,
      List.length_cons, List.map_cons, List.sum_cons]
    omega

/-- **Every violation takes one line** exactly if nothing that is shown has a line feed. -/
theorem pieces_body_eq_iff :
    pieces (body violations) = preamble ++ violations.map item ++ [""] ↔
      ∀ v ∈ violations, ∀ s ∈ v.shown, '\n' ∉ s.toList := by
  rw [pieces_body, List.append_left_inj, List.append_right_inj]
  constructor
  · intro h v hv
    have hlength := length_items violations
    rw [h, List.length_map] at hlength
    have hsum : (violations.map fun v => feeds v.text).sum = 0 := by omega
    exact Violation.feeds_text_eq_zero_iff.1
      (List.sum_eq_zero_iff_forall_eq_nat.1 hsum _ (List.mem_map_of_mem hv))
  · intro h
    have hsingle : ∀ v ∈ violations, pieces (item v) = [item v] := fun v hv => by
      rw [Text.pieces_eq_singleton_iff, feeds_item]
      exact Violation.feeds_text_eq_zero_iff.2 (h v hv)
    rw [List.flatMap_congr hsingle]
    exact List.flatMap_pure_eq_map item violations

end Notice

/-! ## Where line feeds come from -/

namespace Engine

variable {answers : Answers} {pr : PullRequest} {c : Change} {v : Violation}

/-- Where the two versions of a changed file are read: their paths and commits. -/
def sides (pr : PullRequest) (c : Change) : List (String × String) :=
  [(c.basePath, pr.baseCommit), (c.path, pr.headCommit)]

/-- **A text belongs to a changed file.** -/
inductive Source (answers : Answers) (pr : PullRequest) (c : Change) : String → Prop where
  /-- it is a path of the file -/
  | path {path commit : String} : (path, commit) ∈ sides pr c → Source answers pr c path
  /-- it is one of the commits -/
  | commit {path commit : String} : (path, commit) ∈ sides pr c → Source answers pr c commit
  /-- it is the status of a version -/
  | status {path commit s : String} {v : Version} : (path, commit) ∈ sides pr c →
      Obtained answers path commit v → v.header.status? = some s → Source answers pr c s
  /-- it is the encoding that the content of a version declares -/
  | encoding {path commit : String} {file : FileContent} : (path, commit) ∈ sides pr c →
      answers (.file path commit) (.ok (some file)) → Source answers pr c (file.encoding.getD "")
  /-- it is the wording of the error that the call for a version ended with -/
  | failure {path commit : String} {e : Error} : (path, commit) ∈ sides pr c →
      answers (.file path commit) (.error e) → Source answers pr c e.message
  /-- it is the text of an author whom the version before the change names -/
  | author {base : Version} {i : Identity} : Obtained answers c.basePath pr.baseCommit base →
      Authorship.Names answers base i → Source answers pr c i.text

/-- All line feeds in the line of a violation are in texts of one changed file. -/
def Shows (answers : Answers) (pr : PullRequest) (c : Change) (v : Violation) : Prop :=
  ∀ s ∈ v.shown, '\n' ∈ s.toList → Source answers pr c s

theorem mem_sides_head : (c.path, pr.headCommit) ∈ sides pr c :=
  List.mem_cons_of_mem _ (List.mem_cons_self ..)

theorem mem_sides_base : (c.basePath, pr.baseCommit) ∈ sides pr c :=
  List.mem_cons_self ..

/-- A violation may show the path of its file. -/
theorem shows_path (h : v.shown = [c.path]) : Shows answers pr c v := by
  intro s hs _
  rw [h, List.mem_singleton] at hs
  exact hs ▸ .path mem_sides_head

/-- A file that is refused shows its path. -/
theorem shows_refusal (h : Rules.refusal? c = some v) : Shows answers pr c v := by
  rw [Rules.refusal?] at h
  split at h
  · exact shows_path (Option.some.inj h ▸ rfl)
  · split at h
    · exact shows_path (Option.some.inj h ▸ rfl)
    · cases h

theorem shows_numbering {base head : Proposal} (h : v ∈ Rules.numbering c.path base head) :
    Shows answers pr c v := by
  generalize hnumbering : Rules.numbering c.path base head = violations at h
  cases Rules.numbering_eq_iff.1 hnumbering with
  | kept => cases h
  | changed | mismatch =>
    obtain rfl := List.mem_singleton.1 h
    exact shows_path rfl

/-- What is said of a status comes from the headers of the two versions. -/
theorem shows_status {base head : Version} {p q : Proposal} (hp : p.status = base.header.status?)
    (hq : q.status = head.header.status?) (hbase : Obtained answers c.basePath pr.baseCommit base)
    (hhead : Obtained answers c.path pr.headCommit head) (h : v ∈ Rules.status c.path p q) :
    Shows answers pr c v := by
  have hbefore : ∀ s ∈ p.status, Source answers pr c s := fun s hs =>
    .status mem_sides_base hbase (hp.symm.trans hs)
  have hafter : ∀ s ∈ q.status, Source answers pr c s := fun s hs =>
    .status mem_sides_head hhead (hq.symm.trans hs)
  generalize hstatus : Rules.status c.path p q = violations at h
  cases Rules.status_eq_iff.1 hstatus with
  | kept => cases h
  | changed =>
    obtain rfl := List.mem_singleton.1 h
    intro s hs _
    rcases List.mem_cons.1 hs with rfl | hs
    · exact .path mem_sides_head
    · rcases List.mem_append.1 hs with hs | hs
      · exact hbefore s (Option.mem_toList.1 hs)
      · exact hafter s (Option.mem_toList.1 hs)
  | notEditable =>
    obtain rfl := List.mem_singleton.1 h
    intro s hs _
    rcases List.mem_cons.1 hs with rfl | hs
    · exact .path mem_sides_head
    · exact hbefore s (Option.mem_toList.1 hs)

/-- What is missing is named by one of the two sides. -/
theorem shows_missing {path commit : String} {reason : MissingContent}
    (hside : (path, commit) ∈ sides pr c)
    (h : ∀ s ∈ reason.shown, '\n' ∈ s.toList → Source answers pr c s) :
    Shows answers pr c (.remoteContentMissing path commit reason) := by
  intro s hs hfeed
  rcases List.mem_cons.1 hs with rfl | hs
  · exact .path hside
  · rcases List.mem_cons.1 hs with rfl | hs
    · exact .commit hside
    · exact h s hs hfeed

/-- A version that is not obtained is reported with its path and its commit, and with what was
answered to the call for it. -/
theorem shows_fails {path commit : String} {reply : Reply (.file path commit)}
    (hside : (path, commit) ∈ sides pr c) (hreply : answers (.file path commit) reply)
    (h : Retrieval.Fails path commit reply v) : Shows answers pr c v := by
  cases h with
  | notFound | timedOut | noContent | noPath | noName =>
    exact shows_missing hside fun s hs => absurd hs List.not_mem_nil
  | failed =>
    refine shows_missing hside fun s hs _ => ?_
    obtain rfl := List.mem_singleton.1 hs
    exact .failure hside hreply
  | undecodable =>
    refine shows_missing hside fun s hs hfeed => ?_
    obtain rfl := List.mem_singleton.1 hs
    exact absurd hfeed (Text.feeds_eq_zero_iff.1 (DecodeFault.feeds_message _))
  | unsupported =>
    intro s hs _
    rcases List.mem_cons.1 hs with rfl | hs
    · exact .path hside
    · rcases List.mem_cons.1 hs with rfl | hs
      · exact .commit hside
      · obtain rfl := List.mem_singleton.1 hs
        exact .encoding hside hreply

/-- A file that could not be read shows what is missing on one of its sides. -/
theorem shows_unread {violations : List Violation}
    (h : (Retrieval.versions c pr.baseCommit pr.headCommit).Yields answers (.error violations))
    (hv : v ∈ violations) : Shows answers pr c v := by
  obtain ⟨_, _, ⟨base, hbase, rfl⟩, ⟨head, hhead, rfl⟩, htogether⟩ :=
    Retrieval.versions_yields_iff.1 h
  rcases Retrieval.eq_error_of_mem_together htogether hv with h | h
  · exact shows_fails mem_sides_base hbase (Retrieval.versionOfReply_eq_error_iff.1 h)
  · exact shows_fails mem_sides_head hhead (Retrieval.versionOfReply_eq_error_iff.1 h)

/-- What is reported of a changed file has its line feeds from there. -/
theorem Reported.shows {r : Report} (h : Reported answers pr c r) (hv : v ∈ r.verdict.violations) :
    Shows answers pr c v := by
  obtain hrefusal | ⟨-, hversions⟩ | ⟨-, hbase, hhead, hp⟩ := h
  · obtain rfl := List.mem_singleton.1 hv
    exact shows_refusal hrefusal
  · exact shows_unread hversions hv
  · have hstatus := congrArg Proposal.status (Authorship.proposalOf_yields hp).1
    rcases Rules.mem_violations_judge hv with hrefusal | hrule | hrule
    · exact shows_refusal hrefusal
    · exact shows_numbering hrule
    · exact shows_status hstatus rfl hbase hhead hrule

/-- The approval gap of an accepted proposal has its line feeds from the authors. -/
theorem Reported.shows_gap {r : Report} {p : Proposal} {approving : Roster}
    (h : Reported answers pr c r) (hp : r.verdict.proposal = some p)
    (hv : p.gap? approving = some v) : Shows answers pr c v := by
  have hauthors : ∀ i ∈ p.authors, Source answers pr c i.text := by
    obtain hrefusal | ⟨-, hversions⟩ | ⟨-, hbase, hhead, hbaseProposal⟩ := h
    · cases hp
    · cases hp
    · rename_i base head q
      rcases Rules.judge_eq c q (.ofVersion head .empty) with hjudge | ⟨violations, -, hjudge, -⟩
      · rw [hjudge] at hp
        obtain rfl := Option.some.inj hp
        exact fun i hi => .author hbase ((Authorship.proposalOf_yields hbaseProposal).2.1 i hi)
      · rw [hjudge] at hp
        cases hp
  intro s hs _
  rw [Proposal.gap?] at hv
  split at hv
  · obtain rfl := Option.some.inj hv
    cases hs
  · split at hv
    · cases hv
    · obtain rfl := Option.some.inj hv
      obtain ⟨i, hi, rfl⟩ := List.mem_map.1 hs
      exact hauthors i hi

/-- What is found has its line feeds from one of the changed files. -/
theorem shows_ofReports {changes : List Change} {inOrder reports : List Report}
    {approving : Roster} (h : List.Forall₂ (Reported answers pr) changes inOrder)
    (hperm : reports.Perm inOrder)
    (hv : v ∈ (Decision.ofReports reports approving).findings.violations) :
    ∃ c ∈ changes, Shows answers pr c v := by
  have hreported : ∀ r ∈ reports, ∃ c ∈ changes, Reported answers pr c r :=
    (Forge.Program.exists_mem_of_forall₂ h hperm).2
  rcases List.mem_append.1 hv with hv | hv
  · obtain ⟨r, hr, hvr⟩ := List.mem_flatMap.1 hv
    obtain ⟨c, hc, hreport⟩ := hreported r ((Report.ordered_perm reports).subset hr)
    exact ⟨c, hc, hreport.shows hvr⟩
  · obtain ⟨p, hp, hgap⟩ := List.mem_filterMap.1 hv
    obtain ⟨r, hr, hrp⟩ := Findings.mem_accepted_ofReports.1 (List.mem_mergeSort.1 hp)
    obtain ⟨c, hc, hreport⟩ := hreported r hr
    exact ⟨c, hc, hreport.shows_gap hrp hgap⟩

/-- **How the comment of a run is laid out.** Below the preamble every violation has an item, in
their order. The item takes one line, and one more for every line feed in what it shows; so all items
are lines if and only if nothing that is shown has a line feed. All line feeds of a violation come
from one entry of the comparison. -/
theorem comment_layout {σ : Type} (forge : Forge σ) (number concurrency : Nat) :
    ∀ s t result s' violations, RunsTo forge s (run number concurrency) t (.ok result) s' →
      result.decision.outcome = .comment violations →
        pieces (Notice.body violations) = Notice.preamble ++
          violations.flatMap (fun v => pieces (Notice.item v)) ++ [""] ∧
        (∀ v ∈ violations, (pieces (Notice.item v)).length = (v.shown.map feeds).sum + 1) ∧
        (pieces (Notice.body violations) =
            Notice.preamble ++ violations.map Notice.item ++ [""] ↔
          ∀ v ∈ violations, ∀ s ∈ v.shown, '\n' ∉ s.toList) ∧
        ∃ changes t', t = .called (.pullRequest number) (.ok result.pr) ::
            .called (.compare result.pr.baseCommit result.pr.headCommit) (.ok changes) :: t' ∧
          ∀ v ∈ violations, ∃ c ∈ changes, Shows t.answers result.pr c v := by
  intro s t result s' violations h hcomment
  refine ⟨Notice.pieces_body violations, fun v _ => ?_, Notice.pieces_body_eq_iff, ?_⟩
  · rw [Text.length_pieces, Notice.feeds_item, Violation.feeds_text]
  · obtain ⟨changes, t', ht, hdecide⟩ := ends_run_ok h.ends
    have hmeets : Forge.Trace.Meets t.answers t' := fun e he => t.meets_answers e (by simp [ht, he])
    obtain ⟨inOrder, reports, reviews, hreported, hperm, -, hd⟩ :=
      decide_yields_iff.1 (hdecide.yields hmeets)
    rw [← hd] at hcomment
    cases Outcome.ofFindings_eq_iff.1 hcomment with
    | comment => exact ⟨changes, t', ht, fun v hv => shows_ofReports hreported hperm hv⟩

/-! ## Two comments -/

/-- On a forge that does not change, a run comes to what the files come to one after the other. -/
theorem exists_run_steady {replies : (c : Call) → Reply c} {number : Nat}
    (honce : ListsOnce replies number) (concurrency : Nat) : ∃ t s',
      RunsTo (Forge.steady replies) (.start ()) (run number concurrency) t
        (Sequential.run replies number) s' := by
  obtain ⟨t, h⟩ := Forge.Program.runsTo_run (Forge.steady replies) (run_live number concurrency)
    (.start ())
  rw [(concludes_of_runsTo h h.meets_only).eq_run honce] at h
  exact ⟨t, _, h⟩

/-- A forge with a pull request by some author, and with some changed files. There are no accounts
and no reviews. -/
def pullReplies (author : String) (changes : List Change) (content : String → String → String) :
    (c : Call) → Reply c
  | .pullRequest _ => .ok { edit with author := author }
  | .compare .. => .ok changes
  | c => editReplies content none c

variable (author : String) (changes : List Change) (content : String → String → String)

/-- Every content can be read in these replies. -/
theorem version_pullReplies (path commit : String) :
    Sequential.version (pullReplies author changes content) path commit =
      .ok (.ofBody commit path (content path commit)) := by
  have hobtained : Obtained (.only (pullReplies author changes content)) path commit
      (.ofBody commit path (content path commit)) := .of_text rfl
  exact (version_yields_only (Retrieval.version_yields_ok_iff.2 hobtained)).symm

/-- The draft as a proposal. -/
def draftProposal : Proposal :=
  ⟨some 7, some 7, some "draft", .ofList [.ofLogin "alice", .ofContact "bob@example.org"], "EIP-7"⟩

/-- A change to the draft that leaves its header as it is is accepted. -/
theorem report_draft (h : ∀ commit, content editedFile.path commit = draft) :
    Sequential.report (pullReplies author changes content) { edit with author := author }
      editedFile = ⟨editedFile.path, ⟨some draftProposal, []⟩⟩ := by
  have hrefusal : Rules.refusal? editedFile = none := by decide +kernel
  have hbasePath : editedFile.basePath = editedFile.path := rfl
  have hauthors : ∀ commit, Sequential.authors (pullReplies author changes content)
      (.ofBody commit editedFile.path draft) = draftProposal.authors := by
    intro commit
    rw [Sequential.authors, Version.ofBody, header_draft]
    -- none of the parameters has to do with the directory
    change Roster.ofList ((AuthorList.tokens _).map
      (Sequential.identity (pullReplies "" [] fun _ _ => ""))) = _
    decide +kernel
  rw [Sequential.report, Sequential.verdict, hrefusal, version_pullReplies, version_pullReplies,
    hbasePath, h, h]
  dsimp only
  rw [hauthors, Version.ofBody, Version.ofBody, header_draft]
  decide +kernel

/-- A pull request that edits the draft, by somebody who is no author of it. -/
def strangerReplies : (c : Call) → Reply c :=
  pullReplies "mallory" [editedFile] fun _ _ => draft

/-- What is missing then. -/
def strangerGap : Violation :=
  .missingAuthorApproval 7 draftProposal.authors.members

/-- The approval that is missing takes one line. -/
theorem comment_layout_stranger : ∃ t result s',
    RunsTo (Forge.steady strangerReplies) (.start ()) (run 1 8) t (.ok result) s' ∧
      result.decision.outcome = .comment [strangerGap] ∧
      pieces (Notice.body [strangerGap]) =
        Notice.preamble ++ [strangerGap].map Notice.item ++ [""] := by
  have honce : ListsOnce strangerReplies 1 := by
    intro pr changes _ hcompare
    obtain rfl : [editedFile] = changes := Except.ok.inj hcompare
    decide
  have hrun : Sequential.run strangerReplies 1 = .ok ⟨{ edit with author := "mallory" },
      .ofReports [⟨editedFile.path, ⟨some draftProposal, []⟩⟩] (approvers "mallory" [])⟩ := by
    rw [← report_draft "mallory" [editedFile] (fun _ _ => draft) fun _ => rfl]
    rfl
  have hcomment : (Decision.ofReports [⟨editedFile.path, ⟨some draftProposal, []⟩⟩]
      (approvers "mallory" [])).outcome = .comment [strangerGap] := by
    decide +kernel
  obtain ⟨t, s', h⟩ := exists_run_steady honce 8
  rw [hrun] at h
  obtain ⟨-, -, hiff, -⟩ := comment_layout _ 1 8 _ _ _ _ _ h hcomment
  exact ⟨t, _, s', h, hcomment, hiff.2 (by decide +kernel)⟩

/-- A document whose status has two lines. -/
def forged : String :=
  "---\neip: 8\nstatus: \"final\\n- EIP-9: approved\"\n---\n"

theorem header_forged :
    Header.read forged = ⟨[("eip", "8"), ("status", "final\n- EIP-9: approved")]⟩ := by
  decide +kernel

/-- What becomes of the other file. -/
def forgedContent (path commit : String) : String :=
  if path = otherFile.path ∧ commit = edit.headCommit then forged else draft

/-- A pull request that edits the draft and gives another file a status of two lines, by an author of
the draft. -/
def forgedReplies : (c : Call) → Reply c :=
  pullReplies "alice" [editedFile, otherFile] forgedContent

/-- What is wrong with the other file. -/
def forgedChange : Violation :=
  .illegalStatusChange otherFile.path (some "draft") (some "final\n- eip-9: approved")

/-- The file whose status has two lines is refused, and the status is shown. -/
theorem report_forged : Sequential.report forgedReplies { edit with author := "alice" } otherFile =
    ⟨otherFile.path, .refused [forgedChange]⟩ := by
  have hrefusal : Rules.refusal? otherFile = none := by decide +kernel
  have hbase : forgedContent otherFile.basePath edit.baseCommit = draft := rfl
  have hhead : forgedContent otherFile.path edit.headCommit = forged := rfl
  rw [Sequential.report, Sequential.verdict, hrefusal, forgedReplies, version_pullReplies,
    version_pullReplies, hbase, hhead, Version.ofBody, Version.ofBody, header_draft, header_forged]
  decide +kernel

theorem ofReports_forged : (Decision.ofReports [⟨editedFile.path, ⟨some draftProposal, []⟩⟩,
    ⟨otherFile.path, .refused [forgedChange]⟩] (approvers "alice" [])).outcome =
      .comment [forgedChange] := by
  rw [Decision.ofReports, Findings.ofReports, Report.ordered,
    List.mergeSort_of_pairwise (by decide +kernel)]
  decide +kernel

/-- **A header can add items to the comment**: the only violation takes two lines, and the second one
looks like an item of the bot's. -/
theorem comment_forged : ∃ t result s',
    RunsTo (Forge.steady forgedReplies) (.start ()) (run 1 8) t (.ok result) s' ∧
      result.decision.outcome = .comment [forgedChange] ∧
      pieces (Notice.body [forgedChange]) ≠
        Notice.preamble ++ [forgedChange].map Notice.item ++ [""] ∧
      pieces (Notice.body [forgedChange]) = [Notice.marker, Notice.introduction, "",
        "- `EIPS/eip-8.md`: status changed from `draft` to `final",
        "- eip-9: approved`, which requires an editor", ""] := by
  have honce : ListsOnce forgedReplies 1 := by
    intro pr changes _ hcompare
    obtain rfl : [editedFile, otherFile] = changes := Except.ok.inj hcompare
    decide
  have hrun : Sequential.run forgedReplies 1 = .ok ⟨{ edit with author := "alice" },
      .ofReports [⟨editedFile.path, ⟨some draftProposal, []⟩⟩,
        ⟨otherFile.path, .refused [forgedChange]⟩] (approvers "alice" [])⟩ := by
    have hdraft : ∀ commit, forgedContent editedFile.path commit = draft := fun _ => rfl
    rw [← report_draft "alice" [editedFile, otherFile] forgedContent hdraft, ← report_forged]
    rfl
  have hitem : pieces (Notice.item forgedChange) =
      ["- `EIPS/eip-8.md`: status changed from `draft` to `final",
        "- eip-9: approved`, which requires an editor"] := by
    decide +kernel
  obtain ⟨t, s', h⟩ := exists_run_steady honce 8
  rw [hrun] at h
  refine ⟨t, _, s', h, ofReports_forged, fun heq => ?_, ?_⟩
  · exact absurd (Notice.pieces_body_eq_iff.1 heq) (by decide +kernel)
  · rw [Notice.pieces_body, List.flatMap_singleton, hitem]
    rfl

end Engine

end ProposalGate
