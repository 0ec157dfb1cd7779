import ProposalGate.Proofs.Merge
import ProposalGate.Proofs.Script

/-!
# What takes effect

A write takes effect if its reply says so. `effects` collects what took effect in a run, and
`Carried` says what that is for each way in which an outcome can be carried out: for an error it is
nothing, and otherwise it is what the result says (`carried_of_ends`).

An error comes of a call that `Breaks` the run: one that fails, or a merge that is declined. A
request for reviews that fails is none of these; its logins are just not reported as asked.

Whatever only effective writes change is as it was before if the run ends in an error
(`History.view_eq`). So carrying out is all or nothing, and what it reports is true
(`perform_truthful`).
-/

namespace ProposalGate

open Forge (Call Event History Reply Trace)
open Forge.Program (Ends RunsTo Session Steps)

/-! ## Effects -/

/-- The write that took effect in an event, if any. A merge does if the answer says that the pull
request was merged, and any other write if it is answered at all. -/
def Forge.Event.effect? : Event → Option Call
  | .called (.requestReviewers number logins) (.ok _) => some (.requestReviewers number logins)
  | .called (.createComment number body) (.ok _) => some (.createComment number body)
  | .called (.updateComment number id body) (.ok _) => some (.updateComment number id body)
  | .called (.merge number request) (.ok result) =>
    if result.merged then some (.merge number request) else none
  | _ => none

/-- What took effect in a run, in order. -/
def effects (t : Trace) : List Call :=
  t.filterMap Event.effect?

/-- Whether a call makes an error of what it is a part of: it fails or takes too long, and is no
request for reviews, or it is a merge that does not come about. -/
def Forge.Event.breaks : Event → Bool
  | .called c (.error _) => c.writeKind? ≠ some .request
  | .called (.merge ..) (.ok result) => !result.merged
  | _ => false

/-- A comment is posted. -/
def Forge.Call.isPosting : Call → Bool
  | .createComment .. => true
  | _ => false

/-- A comment is edited. -/
def Forge.Call.isEditing : Call → Bool
  | .updateComment .. => true
  | _ => false

/-- Reviews are requested. -/
def Forge.Call.isRequest : Call → Bool
  | .requestReviewers .. => true
  | _ => false

theorem effects_append (t t' : Trace) : effects (t ++ t') = effects t ++ effects t' :=
  List.filterMap_append ..

/-! ## What effects change -/

/-- A part of the state of a forge that changes only if something takes effect. -/
structure Harmless {σ β : Type} (forge : Forge σ) (view : σ → β) : Prop where
  /-- a call that fails or takes too long changes nothing -/
  failing : ∀ c s e, (forge c s).1 = .error e → view (forge c s).2 = view s
  /-- neither does a merge that is declined -/
  declining : ∀ number request s result, (forge (.merge number request) s).1 = .ok result →
    result.merged = false → view (forge (.merge number request) s).2 = view s
  /-- or a call that is no write -/
  reading : ∀ c s, c.isWrite = false → view (forge c s).2 = view s

variable {σ β : Type} {forge : Forge σ} {view : σ → β} {s s' : Session σ} {t : Trace}

/-- **What has no effect changes nothing.** -/
theorem Forge.Event.Happens.view_eq {e : Event} (h : e.Happens forge s s')
    (hforge : Harmless forge view) (he : e.effect? = none) : view s'.state = view s.state := by
  cases e with
  | called c reply =>
    obtain ⟨hreply, rfl⟩ := Prod.mk.inj h
    cases hc : c.isWrite with
    | false => exact hforge.reading c s.state hc
    | true =>
      rcases reply with e | answer
      · exact hforge.failing c s.state e hreply
      · cases c with
        | merge number request =>
          refine hforge.declining number request s.state answer hreply ?_
          simpa [Event.effect?] using he
        | requestReviewers | createComment | updateComment => cases he
        | _ => cases hc
  | lookedUp contact reply =>
    simp only [Event.Happens, Session.lookUp] at h
    split at h
    · obtain ⟨-, rfl⟩ := Prod.mk.inj h
      rfl
    · obtain ⟨-, rfl⟩ := Prod.mk.inj h
      exact hforge.reading (.users contact) s.state rfl

theorem Forge.History.view_eq (h : History forge s t s') (hforge : Harmless forge view)
    (ht : effects t = []) : view s'.state = view s.state := by
  induction h with
  | nil => rfl
  | cons he _ ih =>
    obtain ⟨hfirst, hrest⟩ := List.forall_mem_cons.1 (List.filterMap_eq_nil_iff.1 ht)
    rw [ih (List.filterMap_eq_nil_iff.2 hrest), he.view_eq hforge hfirst]

namespace Dispatch

variable {pr : PullRequest} {number : Nat} {body : String} {logins : List String}

/-! ## The comment -/

/-- What takes effect when the bot's comment is brought up to date. -/
inductive Commented (number : Nat) (body : String) :
    Except Error CommentAction → List Call → Prop where
  /-- nothing, because something went wrong -/
  | failed {e : Error} : Commented number body (.error e) []
  /-- the comment is posted -/
  | created : Commented number body (.ok .created) [.createComment number body]
  /-- the comment is edited -/
  | updated {id : Nat} : Commented number body (.ok .updated) [.updateComment number id body]
  /-- nothing, because nothing is to be done -/
  | unchanged : Commented number body (.ok .unchanged) []

/-- Who the bot is and what has been said is found out without an effect. -/
theorem effects_of_reads {bot : Reply .currentUser} {comments : Reply (.comments number)}
    (h : (Forge.Program.pair (.call .currentUser) (.call (.comments number))).Ends t
      (bot, comments)) :
    effects t = [] ∧ (t.any Event.breaks = !(bot.isOk && comments.isOk)) := by
  rcases h.of_pair_call with rfl | rfl <;> rcases bot with e | bot <;>
    rcases comments with e' | comments <;> exact ⟨rfl, rfl⟩

theorem commented_of_ends {attempt : Except Error CommentAction}
    (h : (upsert number body).Ends t attempt) :
    Commented number body attempt (effects t) ∧ t.any Event.breaks = !attempt.isOk := by
  obtain ⟨⟨bot, comments⟩, t₁, t₂, hreads, hrest, rfl⟩ := h.of_bind
  obtain ⟨hnone, hbreaks⟩ := effects_of_reads hreads
  rw [effects_append, hnone, List.nil_append, List.any_append, hbreaks]
  rcases bot with e | bot
  · obtain ⟨rfl, rfl⟩ := hrest.of_done
    exact ⟨.failed, rfl⟩
  rcases comments with e | comments
  · obtain ⟨rfl, rfl⟩ := hrest.of_done
    exact ⟨.failed, rfl⟩
  cases hfind : Notice.find? comments bot with
  | none =>
    simp only [hfind] at hrest
    obtain ⟨reply, t₃, hdone, rfl⟩ := Ends.of_ask hrest
    obtain ⟨rfl, rfl⟩ := Ends.of_done hdone
    cases reply with
    | error e => exact ⟨.failed, rfl⟩
    | ok u => exact ⟨.created, rfl⟩
  | some existing =>
    simp only [hfind] at hrest
    split at hrest
    · obtain ⟨rfl, rfl⟩ := hrest.of_done
      exact ⟨.unchanged, rfl⟩
    · obtain ⟨reply, t₃, hdone, rfl⟩ := Ends.of_ask hrest
      obtain ⟨rfl, rfl⟩ := Ends.of_done hdone
      cases reply with
      | error e => exact ⟨.failed, rfl⟩
      | ok u => exact ⟨.updated, rfl⟩

/-! ## The request for reviews -/

/-- What takes effect when reviews are requested, and who is asked by it. -/
inductive Asked (number : Nat) (logins : List String) : List String → List Call → Prop where
  /-- nothing -/
  | nobody : Asked number logins [] []
  /-- the request -/
  | everybody : logins ≠ [] → Asked number logins logins [.requestReviewers number logins]

/-- A request for reviews breaks nothing, whether or not anybody is asked by it. -/
theorem asked_of_ends {asked : List String} (h : (requestReviews number logins).Ends t asked) :
    Asked number logins asked (effects t) ∧ t.any Event.breaks = false := by
  rw [requestReviews] at h
  split at h
  · obtain ⟨rfl, rfl⟩ := h.of_done
    exact ⟨.nobody, rfl⟩
  · next hlogins =>
    obtain ⟨reply, t', hdone, rfl⟩ := Ends.of_ask h
    rcases reply with e | u
    · obtain ⟨rfl, rfl⟩ := Ends.of_done hdone
      exact ⟨.nobody, rfl⟩
    · obtain ⟨rfl, rfl⟩ := Ends.of_done hdone
      exact ⟨.everybody (by simpa using hlogins), rfl⟩

/-! ## Any outcome -/

/-- What takes effect when an outcome is carried out, by what is reported. -/
inductive Carried (pr : PullRequest) : Outcome → Except Error Dispatch → List Call → Prop where
  /-- nothing, because something went wrong -/
  | failed {outcome : Outcome} {e : Error} : Carried pr outcome (.error e) []
  /-- the merge -/
  | merged {numbers : List Nat} {commit : Option String} :
      Carried pr (.merge numbers) (.ok (.merged commit))
        [.merge pr.number (Notice.mergeRequest pr numbers)]
  /-- what is done about the comment, and then about the reviews -/
  | commented {violations : List Violation} {action : CommentAction} {asked : List String}
      {written requested : List Call} :
      Commented pr.number (Notice.body violations) (.ok action) written →
      Asked pr.number (Notice.reviewers violations pr.author) asked requested →
      Carried pr (.comment violations) (.ok (.commented action asked)) (written ++ requested)
  /-- nothing, because nothing is to be done -/
  | nothing : Carried pr .nothing (.ok .nothing) []

theorem Commented.eq_nil_of_error {attempt : Except Error CommentAction} {written : List Call}
    {e : Error} (h : Commented number body attempt written) (he : attempt = .error e) :
    written = [] := by
  cases h with
  | failed => rfl
  | _ => cases he

/-- **What takes effect is what is reported**, and a call that breaks the run is reported too. -/
theorem carried_of_ends {outcome : Outcome} {result : Except Error Dispatch}
    (h : (perform pr outcome).Ends t result) :
    Carried pr outcome result (effects t) ∧ t.any Event.breaks = !result.isOk := by
  cases outcome with
  | merge numbers =>
    obtain ⟨reply, t', hdone, rfl⟩ := Ends.of_ask h
    obtain ⟨rfl, rfl⟩ := Ends.of_done hdone
    rcases reply with e | answer
    · exact ⟨.failed, rfl⟩
    · obtain ⟨merged, commit, message⟩ := answer
      cases merged with
      | false => exact ⟨.failed, rfl⟩
      | true => exact ⟨.merged, rfl⟩
  | comment violations =>
    obtain ⟨attempt, t₁, t₂, hupsert, hrest, rfl⟩ := h.of_bind
    obtain ⟨hcommented, hbreaks⟩ := commented_of_ends hupsert
    rw [effects_append, List.any_append, hbreaks]
    rcases attempt with e | action
    · obtain ⟨rfl, rfl⟩ := hrest.of_done
      rw [hcommented.eq_nil_of_error rfl]
      exact ⟨.failed, rfl⟩
    · obtain ⟨asked, t₃, t₄, hrequest, hdone, rfl⟩ := hrest.of_bind
      obtain ⟨rfl, rfl⟩ := hdone.of_done
      obtain ⟨hasked, hunbroken⟩ := asked_of_ends hrequest
      rw [List.append_nil, hunbroken]
      exact ⟨.commented hcommented hasked, rfl⟩
  | nothing =>
    obtain ⟨rfl, rfl⟩ := h.of_done
    exact ⟨.nothing, rfl⟩

/-- **A report is true**: what became of the bot's comment and who was asked for a review is what
took effect. -/
structure Truthful (pr : PullRequest) (action : CommentAction) (asked : List String)
    (did : List Call) : Prop where
  /-- the comment is new if one was posted and none edited -/
  created : action = .created ↔
    did.countP Call.isPosting = 1 ∧ did.countP Call.isEditing = 0
  /-- it has a new text if none was posted and one edited -/
  updated : action = .updated ↔
    did.countP Call.isPosting = 0 ∧ did.countP Call.isEditing = 1
  /-- it said this already if neither was done -/
  unchanged : action = .unchanged ↔
    did.countP Call.isPosting = 0 ∧ did.countP Call.isEditing = 0
  /-- whoever was asked was asked by the one request that was accepted -/
  asked : did.filter Call.isRequest = if asked = [] then [] else [.requestReviewers pr.number asked]
  /-- the pull request was not merged -/
  unmerged : ∀ c ∈ did, c.writeKind? ≠ some .merge

theorem Carried.truthful {outcome : Outcome} {result : Except Error Dispatch}
    {action : CommentAction} {asked : List String} {did : List Call}
    (h : Carried pr outcome result did) (hresult : result = .ok (.commented action asked)) :
    Truthful pr action asked did := by
  cases h with
  | @commented _ action' asked' written requested hcommented hasked =>
    obtain ⟨rfl, rfl⟩ : action' = action ∧ asked' = asked := by simpa using hresult
    cases hcommented <;> cases hasked <;> constructor <;>
      simp_all [List.countP_cons, Call.isPosting, Call.isEditing, Call.isRequest, Call.writeKind?]
  | _ => cases hresult

theorem Carried.eq_nil_of_error {outcome : Outcome} {result : Except Error Dispatch}
    {did : List Call} {e : Error} (h : Carried pr outcome result did) (he : result = .error e) :
    did = [] := by
  cases h with
  | failed => rfl
  | _ => cases he

theorem Carried.merge_of_merged {outcome : Outcome} {result : Except Error Dispatch}
    {did : List Call} {commit : Option String} (h : Carried pr outcome result did)
    (hresult : result = .ok (.merged commit)) : ∃ numbers, outcome = .merge numbers ∧
      did = [.merge pr.number (Notice.mergeRequest pr numbers)] := by
  cases h with
  | merged => exact ⟨_, rfl, rfl⟩
  | _ => cases hresult

/-- **An outcome is carried out truthfully or not at all**, whatever a forge replies, as long as a
call that fails has no effect. It can always be brought to an end. The end is an error exactly if a
call breaks the run, and then nothing took effect. Otherwise the result says what did. -/
theorem perform_truthful (hforge : Harmless forge view) (pr : PullRequest) (outcome : Outcome) :
    (∀ t p s, Steps (perform pr outcome) t p → ∃ t' result s', RunsTo forge s p t' result s') ∧
    ∀ s t result s', RunsTo forge s (perform pr outcome) t result s' →
      ((∃ e, result = .error e) ↔ ∃ e ∈ t, e.breaks) ∧
      (∀ e, result = .error e → effects t = [] ∧ view s'.state = view s.state) ∧
      (∀ commit, result = .ok (.merged commit) → ∃ numbers, outcome = .merge numbers ∧
        effects t = [.merge pr.number (Notice.mergeRequest pr numbers)]) ∧
      ∀ action asked, result = .ok (.commented action asked) →
        Truthful pr action asked (effects t) := by
  refine ⟨fun t p s h => (perform_live pr outcome).ends forge h s, fun s t result s' h => ?_⟩
  obtain ⟨hcarried, hbreaks⟩ := carried_of_ends h.ends
  refine ⟨?_, fun e he => ?_, fun commit => hcarried.merge_of_merged,
    fun action asked => hcarried.truthful⟩
  · rw [← List.any_eq_true, hbreaks]
    cases result with
    | error e => simp [Except.isOk, Except.toBool]
    | ok done => simp [Except.isOk, Except.toBool]
  · have hnone := hcarried.eq_nil_of_error he
    exact ⟨hnone, h.history.view_eq hforge hnone⟩

/-! ## A report without a reviewer -/

/-- All of a forge in memory changes only if something takes effect. -/
theorem harmless_within (budget : Duration) : Harmless (Forge.Script.within budget) id where
  failing _ _ _ h := Forge.Script.within_error h
  declining _ _ s _ _ _ := Forge.Script.within_state budget s (by simp [Call.writeKind?])
  reading c s hc := by
    refine Forge.Script.within_state budget s fun hkind => ?_
    rw [Call.isWrite_eq, hkind] at hc
    cases hc

/-- An approval is missing. -/
def unapproved : Outcome :=
  .comment [.missingAuthorApproval 7 [.ofLogin "bob"]]

/-- A forge where the bot has commented before, and a kind of call fails. -/
def refusing (kind : String) : Forge.Script :=
  { Forge.Script.empty with
    comments := [⟨1, Notice.marker, some "eip-bot"⟩]
    failures := [(kind, "service unavailable")] }

/-- If the request for reviews fails then the comment is edited all the same, and nobody is said to
have been asked; if the comment cannot be edited then nothing is done. -/
theorem perform_truthful_failing : ∃ t s' t' e s'',
    RunsTo (Forge.Script.within (.seconds 30)) (.start (refusing "request_reviewers"))
      (perform Engine.edit unapproved) t (.ok (.commented .updated [])) s' ∧
    Truthful Engine.edit .updated [] (effects t) ∧
    RunsTo (Forge.Script.within (.seconds 30)) (.start (refusing "update_comment"))
      (perform Engine.edit unapproved) t' (.error e) s'' ∧
    effects t' = [] ∧ s''.state = refusing "update_comment" := by
  have hlive := perform_live Engine.edit unapproved
  obtain ⟨-, htruthful⟩ := perform_truthful (harmless_within (.seconds 30)) Engine.edit unapproved
  obtain ⟨t, h⟩ := Forge.Program.runsTo_run (Forge.Script.within (.seconds 30)) hlive
    (.start (refusing "request_reviewers"))
  obtain ⟨t', h'⟩ := Forge.Program.runsTo_run (Forge.Script.within (.seconds 30)) hlive
    (.start (refusing "update_comment"))
  have hdone : ((perform Engine.edit unapproved).run (Forge.Script.within (.seconds 30))
      (.start (refusing "request_reviewers"))).1 = .ok (.commented .updated []) := by
    decide +kernel
  have hfailed : ((perform Engine.edit unapproved).run (Forge.Script.within (.seconds 30))
      (.start (refusing "update_comment"))).1 = .error (.platform "service unavailable") := by
    decide +kernel
  rw [hdone] at h
  rw [hfailed] at h'
  obtain ⟨-, -, -, hreport⟩ := htruthful _ _ _ _ h
  obtain ⟨-, hnothing, -, -⟩ := htruthful _ _ _ _ h'
  obtain ⟨hnone, hstate⟩ := hnothing _ rfl
  exact ⟨t, _, t', _, _, h, hreport _ _ rfl, h', hnone, hstate⟩

end Dispatch

end ProposalGate
