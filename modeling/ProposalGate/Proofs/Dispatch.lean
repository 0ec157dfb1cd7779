import ProposalGate.Dispatch
import ProposalGate.Proofs.Schedule.Tally

/-!
# What carrying out an outcome does

`Performs` has one rule for each way an outcome can be carried out, with the calls that are made on
the way and the sessions between them. `Upserts` and `Requests` do the same for the two parts of a
report: the comment, and the request for reviews, which is made only if the comment is there. Every
run of the programs follows these rules (`performs_of_runsTo`), so whatever is to be known of a run
is read off them.
-/

namespace ProposalGate

open Forge (Call Reply Trace)
open Forge.Program (RunsTo Session)

/-! ## Kinds of writes -/

/-- A kind of write. -/
inductive WriteKind where
  /-- a comment is posted or edited -/
  | comment
  /-- reviews are requested -/
  | request
  /-- a merge -/
  | merge
  deriving DecidableEq, Repr

/-- What kind of write a call is, if it is one. -/
def Forge.Call.writeKind? : Call → Option WriteKind
  | .createComment .. | .updateComment .. => some .comment
  | .requestReviewers .. => some .request
  | .merge .. => some .merge
  | _ => none

/-- The calls that write are those of a kind. -/
theorem Forge.Call.isWrite_eq (c : Call) : c.isWrite = c.writeKind?.isSome := by
  cases c <;> rfl

/-- The kinds of the writes among some calls, in order. -/
def writeKinds (calls : List Call) : List WriteKind :=
  calls.filterMap Call.writeKind?

theorem writeKinds_append (calls calls' : List Call) :
    writeKinds (calls ++ calls') = writeKinds calls ++ writeKinds calls' :=
  List.filterMap_append ..

/-- Calls that write nothing are of no kind. -/
theorem writeKinds_eq_nil_iff {calls : List Call} :
    writeKinds calls = [] ↔ ∀ c ∈ calls, c.isWrite = false := by
  simp [writeKinds, Call.isWrite_eq]

theorem writeKinds_requestReviewers (number : Nat) (logins : List String) :
    writeKinds [.requestReviewers number logins] = [.request] :=
  rfl

namespace Dispatch

variable {σ : Type} {forge : Forge σ} {pr : PullRequest} {number : Nat} {body : String}
  {logins : List String} {t : Trace} {s s' : Session σ}

/-! ## The comment -/

/-- How the bot's comment is brought up to date, or not. -/
inductive Upserts (forge : Forge σ) (number : Nat) (body : String) (s : Session σ) :
    Except Error CommentAction → Session σ → Prop where
  /-- it is not known who the bot is, or what has been said -/
  | unread {bot : Reply .currentUser} {comments : Reply (.comments number)} {e : Error}
      {s' : Session σ} : s.AskBoth forge .currentUser (.comments number) bot comments s' →
      Upserts forge number body s (.error e) s'
  /-- the comment is there and says this already -/
  | unchanged {bot : String} {comments : List Comment} {existing : Comment} {s' : Session σ} :
      s.AskBoth forge .currentUser (.comments number) (.ok bot) (.ok comments) s' →
      Notice.find? comments bot = some existing → existing.body = body →
      Upserts forge number body s (.ok .unchanged) s'
  /-- the comment is there and is to say this -/
  | updated {bot : String} {comments : List Comment} {existing : Comment}
      {reply : Reply (.updateComment number existing.id body)} {mid s' : Session σ} :
      s.AskBoth forge .currentUser (.comments number) (.ok bot) (.ok comments) mid →
      Notice.find? comments bot = some existing → existing.body ≠ body →
      mid.ask forge (.updateComment number existing.id body) = (reply, s') →
      Upserts forge number body s (confirm .updated reply) s'
  /-- there is no comment yet -/
  | created {bot : String} {comments : List Comment} {reply : Reply (.createComment number body)}
      {mid s' : Session σ} :
      s.AskBoth forge .currentUser (.comments number) (.ok bot) (.ok comments) mid →
      Notice.find? comments bot = none →
      mid.ask forge (.createComment number body) = (reply, s') →
      Upserts forge number body s (confirm .created reply) s'

/-- Every run of an upsert is one of the ways in which it can go. -/
theorem upserts_of_runsTo {attempt : Except Error CommentAction}
    (h : RunsTo forge s (upsert number body) t attempt s') :
    Upserts forge number body s attempt s' := by
  obtain ⟨⟨bot, comments⟩, t₁, t₂, mid, hreads, hrest, -⟩ := h.of_bind
  have hboth := hreads.of_pair_call
  rcases bot with e | bot
  · obtain ⟨-, rfl, rfl⟩ := hrest.of_done
    exact .unread hboth
  rcases comments with e | comments
  · obtain ⟨-, rfl, rfl⟩ := hrest.of_done
    exact .unread hboth
  cases hfind : Notice.find? comments bot with
  | none =>
    simp only [hfind] at hrest
    obtain ⟨reply, t₃, t₄, last, hcreate, hdone, -⟩ := hrest.of_bind
    obtain ⟨-, rfl, rfl⟩ := hdone.of_done
    exact .created hboth hfind hcreate.of_call.1
  | some existing =>
    simp only [hfind] at hrest
    split at hrest
    · next hbody =>
      obtain ⟨-, rfl, rfl⟩ := hrest.of_done
      exact .unchanged hboth hfind hbody
    · next hbody =>
      obtain ⟨reply, t₃, t₄, last, hupdate, hdone, -⟩ := hrest.of_bind
      obtain ⟨-, rfl, rfl⟩ := hdone.of_done
      exact .updated hboth hfind hbody hupdate.of_call.1

/-- Who the bot is and what has been said is read, not written. -/
theorem writeKinds_of_askBoth {bot : Reply .currentUser} {comments : Reply (.comments number)}
    (h : s.AskBoth forge .currentUser (.comments number) bot comments s') :
    writeKinds s'.calls = writeKinds s.calls := by
  obtain ⟨reads, hperm, hcalls⟩ := h.calls_perm
  have hnone : writeKinds reads = [] := by
    rw [writeKinds_eq_nil_iff]
    intro c hc
    rcases List.mem_pair.1 (hperm.subset hc) with rfl | rfl <;> rfl
  rw [hcalls, writeKinds_append, hnone, List.append_nil]

/-- To bring the comment up to date takes one write at most, and that is of a comment. -/
theorem Upserts.writeKinds_eq {attempt : Except Error CommentAction}
    (h : Upserts forge number body s attempt s') :
    writeKinds s'.calls = writeKinds s.calls ∨
      writeKinds s'.calls = writeKinds s.calls ++ [.comment] := by
  cases h with
  | unread hboth | unchanged hboth => exact .inl (writeKinds_of_askBoth hboth)
  | updated hboth _ _ hwrite | created hboth _ hwrite =>
    right
    rw [Session.calls_ask hwrite, writeKinds_append, writeKinds_of_askBoth hboth]
    rfl

/-- A comment that says it already is not written. -/
theorem Upserts.writeKinds_of_unchanged (h : Upserts forge number body s (.ok .unchanged) s') :
    writeKinds s'.calls = writeKinds s.calls := by
  generalize hattempt : Except.ok CommentAction.unchanged = attempt at h
  cases h with
  | unread hboth => cases hattempt
  | unchanged hboth => exact writeKinds_of_askBoth hboth
  | @updated _ _ _ reply => cases reply <;> cases hattempt
  | @created _ _ reply => cases reply <;> cases hattempt

/-- An upsert has no pools, and so cannot get stuck in one. -/
theorem upsert_live (number : Nat) (body : String) : (upsert number body).Live := by
  refine Forge.Program.Live.bind ⟨fun _ => trivial, fun _ => trivial, fun _ _ => trivial⟩ ?_
  rintro ⟨e | bot, e' | comments⟩
  · trivial
  · trivial
  · trivial
  · simp only
    cases Notice.find? comments bot with
    | none => exact fun _ => trivial
    | some existing =>
      simp only
      split
      · trivial
      · exact fun _ => trivial

/-! ## The request for reviews -/

/-- How reviews are requested, and from whom in the end. -/
inductive Requests (forge : Forge σ) (number : Nat) (logins : List String) (s : Session σ) :
    List String → Session σ → Prop where
  /-- there is nobody to ask -/
  | idle : Requests forge number logins s [] s
  /-- everybody is asked -/
  | asked {reply : Reply (.requestReviewers number logins)} {result : List String}
      {s' : Session σ} : s.ask forge (.requestReviewers number logins) = (reply, s') →
      Requests forge number logins s result s'

/-- Every run of a request for reviews is one of the ways in which it can go. -/
theorem requests_of_runsTo {result : List String}
    (h : RunsTo forge s (requestReviews number logins) t result s') :
    Requests forge number logins s result s' := by
  rw [requestReviews] at h
  split at h
  · obtain ⟨-, rfl, rfl⟩ := h.of_done
    exact .idle
  · obtain ⟨reply, t₁, t₂, mid, hcall, hrest, -⟩ := h.of_bind
    have hask := hcall.of_call.1
    rcases reply with e | u
    · obtain ⟨-, rfl, rfl⟩ := hrest.of_done
      exact .asked hask
    · obtain ⟨-, rfl, rfl⟩ := hrest.of_done
      exact .asked hask

/-- At most one call is made for all the reviewers together. -/
theorem Requests.calls_eq {logins result : List String}
    (h : Requests forge number logins s result s') :
    s'.calls = s.calls ∨ s'.calls = s.calls ++ [.requestReviewers number logins] := by
  cases h with
  | idle => exact .inl rfl
  | asked hask => exact .inr (Session.calls_ask hask)

theorem requestReviews_live (number : Nat) (logins : List String) :
    (requestReviews number logins).Live := by
  rw [requestReviews]
  split
  · trivial
  · refine Forge.Program.Live.bind (fun _ => trivial) ?_
    rintro (e | u) <;> trivial

/-! ## Any outcome -/

/-- How an outcome is carried out, or not. -/
inductive Performs (forge : Forge σ) (pr : PullRequest) (s : Session σ) :
    Outcome → Except Error Dispatch → Session σ → Prop where
  /-- nothing is to be done -/
  | nothing : Performs forge pr s .nothing (.ok .nothing) s
  /-- the forge is asked to merge -/
  | merge {numbers : List Nat} {reply : Reply (.merge pr.number (Notice.mergeRequest pr numbers))}
      {s' : Session σ} :
      s.ask forge (.merge pr.number (Notice.mergeRequest pr numbers)) = (reply, s') →
      Performs forge pr s (.merge numbers) (ofMerge pr.number reply) s'
  /-- there is no comment, so nobody is asked -/
  | unreported {violations : List Violation} {t : Trace} {e : Error} {s' : Session σ} :
      RunsTo forge s (upsert pr.number (Notice.body violations)) t (.error e) s' →
      Performs forge pr s (.comment violations) (.error e) s'
  /-- the comment is there, and reviews are requested -/
  | reported {violations : List Violation} {t : Trace} {action : CommentAction}
      {asked : List String} {mid s' : Session σ} :
      RunsTo forge s (upsert pr.number (Notice.body violations)) t (.ok action) mid →
      Requests forge pr.number (Notice.reviewers violations pr.author) mid asked s' →
      Performs forge pr s (.comment violations) (.ok (.commented action asked)) s'

/-- **Every run that carries out an outcome does it in one of these ways.** -/
theorem performs_of_runsTo {outcome : Outcome} {result : Except Error Dispatch}
    (h : RunsTo forge s (perform pr outcome) t result s') :
    Performs forge pr s outcome result s' := by
  cases outcome with
  | merge numbers =>
    obtain ⟨reply, t₁, t₂, mid, hcall, hdone, -⟩ := h.of_bind
    obtain ⟨-, rfl, rfl⟩ := hdone.of_done
    exact .merge hcall.of_call.1
  | comment violations =>
    obtain ⟨attempt, t₁, t₂, mid, hupsert, hrest, -⟩ := h.of_bind
    rcases attempt with e | action
    · obtain ⟨-, rfl, rfl⟩ := hrest.of_done
      exact .unreported hupsert
    · obtain ⟨asked, t₃, t₄, last, hrequest, hdone, -⟩ := hrest.of_bind
      obtain ⟨-, rfl, rfl⟩ := hdone.of_done
      exact .reported hupsert (requests_of_runsTo hrequest)
  | nothing =>
    obtain ⟨-, rfl, rfl⟩ := h.of_done
    exact .nothing

/-- There is no pool among the programs that carry an outcome out, so none is too narrow. -/
theorem perform_live (pr : PullRequest) (outcome : Outcome) : (perform pr outcome).Live := by
  cases outcome with
  | merge numbers => exact fun _ => trivial
  | comment violations =>
    refine Forge.Program.Live.bind (upsert_live pr.number (Notice.body violations)) ?_
    rintro (e | action)
    · trivial
    · exact Forge.Program.Live.bind (requestReviews_live ..) fun _ => trivial
  | nothing => trivial

end Dispatch

end ProposalGate
