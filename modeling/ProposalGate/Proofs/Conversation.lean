import ProposalGate.Proofs.Merge
import ProposalGate.Proofs.Script

/-!
# One comment

The bot may report on a pull request any number of times, and in between anybody may comment on it,
and quote the bot. However long this goes on, the comments are those that were there at first, those
that others added, and, once a report has succeeded, one comment of the bot's own with the last
report that did (`Conversation.settled`). So the bot never has two comments, changes nobody else's,
and repeats nothing (`one_comment`).

`Hosts` says what is asked of the forge for this. Any call may fail, as long as it has no effect
then. `Move` is one turn of a conversation, and `Changes` is what a report does to the comments in
it: it posts one if the bot has none, edits the bot's if that says something else, and otherwise
leaves all of them as they are. Which of these it is depends on what `Notice.isOwn` recognises, and
the bot does recognise what it has written itself (`Notice.isOwn_body`).
-/

namespace ProposalGate

open Forge (Call Reply)
open Forge.Program (RunsTo Session)

/-! ## The bot recognises what it wrote -/

theorem Text.afterStart?_append (start rest : List Char) :
    Text.afterStart? start (start ++ rest) = some rest := by
  induction start with
  | nil => rfl
  | cons c start ih => rw [List.cons_append, Text.afterStart?, if_pos rfl, ih]

namespace Notice

theorem contains_append (part rest : List Char) : contains part (part ++ rest) = true := by
  cases hall : part ++ rest with
  | nil =>
    obtain ⟨rfl, -⟩ := List.append_eq_nil_iff.1 hall
    rfl
  | cons c cs => rw [contains, ← hall, Text.afterStart?_append, Option.isSome_some, Bool.true_or]

theorem sameLogin_self (login : String) : sameLogin login login = true :=
  decide_eq_true rfl

/-- Whatever the bot reports, it recognises the comment. -/
theorem isOwn_body (bot : String) (id : Nat) (violations : List Violation) :
    isOwn bot ⟨id, body violations, some bot⟩ = true := by
  have hmarker : contains marker.toList (body violations).toList = true := by
    rw [body, String.append_assoc, String.append_assoc, String.append_assoc, String.toList_append]
    exact contains_append ..
  rw [isOwn, hmarker, Bool.true_and]
  exact sameLogin_self bot

/-- A comment by somebody else is not the bot's, whatever it quotes. -/
theorem isOwn_eq_false {bot : String} {c : Comment}
    (h : ∀ login ∈ c.author, sameLogin login bot = false) : isOwn bot c = false := by
  rw [isOwn, Bool.and_eq_false_iff]
  right
  cases hauthor : c.author with
  | none => rfl
  | some login => exact h login hauthor

end Notice

/-! ## What a report does to the comments -/

variable {σ : Type} {forge : Forge σ} {number : Nat} {bot : String} {view : σ → Multiset Comment}

/-- A forge on which the bot comments on a pull request. The comments there are a part of its state;
they are listed in any order. -/
structure Hosts (forge : Forge σ) (number : Nat) (bot : String) (view : σ → Multiset Comment) :
    Prop where
  /-- no two comments have one number -/
  ids_nodup : ∀ s, ((view s).map Comment.id).Nodup
  /-- the bot is who it is -/
  login : ∀ s login, (forge .currentUser s).1 = .ok login → login = bot
  /-- all comments are listed -/
  listing : ∀ s comments, (forge (.comments number) s).1 = .ok comments →
    (comments : Multiset Comment) = view s
  /-- what is posted is there from then on, by the bot, and with a new number -/
  posting : ∀ s body u, (forge (.createComment number body) s).1 = .ok u →
    ∃ id, (∀ c ∈ view s, c.id ≠ id) ∧
      view (forge (.createComment number body) s).2 = ⟨id, body, some bot⟩ ::ₘ view s
  /-- what is edited has the new text, and nothing else changes -/
  editing : ∀ s id body u, (forge (.updateComment number id body) s).1 = .ok u →
    view (forge (.updateComment number id body) s).2 =
      (view s).map (Forge.Script.rewrite id body)
  /-- a call that fails changes no comments -/
  failing : ∀ c s e, (forge c s).1 = .error e → view (forge c s).2 = view s
  /-- neither does one that writes none -/
  reading : ∀ c s, c.writeKind? ≠ some .comment → view (forge c s).2 = view s

/-- Whatever is scripted to fail, and however long calls are scripted to take, this is a forge for
conversations. -/
theorem hosts_tidily (bot : String) (budget : Duration) (number : Nat) :
    Hosts (Forge.Script.tidily bot budget) number bot Forge.Script.commentsOf where
  ids_nodup s := s.2.ids_nodup
  login s login h := by
    have h : (Forge.Script.within budget .currentUser s.1).1 = .ok login := h
    rw [Forge.Script.within_ok h] at h
    rw [← Except.ok.inj h]
    exact s.2.bot_eq
  listing s comments h := by
    have h : (Forge.Script.within budget (.comments number) s.1).1 = .ok comments := h
    rw [Forge.Script.within_ok h] at h
    rw [← Except.ok.inj h]
    rfl
  posting s body u h := by
    refine ⟨s.1.nextId, fun c hc => (s.2.ids_lt c hc).ne, ?_⟩
    rw [Forge.Script.commentsOf_tidily, Forge.Script.comments_createComment h, s.2.bot_eq,
      ← Multiset.coe_add, add_comm]
    rfl
  editing s id body u h := by
    rw [Forge.Script.commentsOf_tidily, Forge.Script.comments_updateComment h]
    rfl
  failing c s e h := by
    rw [Forge.Script.commentsOf_tidily, Forge.Script.within_error h]
    rfl
  reading c s hc := by
    rw [Forge.Script.commentsOf_tidily, Forge.Script.within_state budget s.1 hc]
    rfl

/-- What becomes of the comments when the bot reports something. -/
inductive Changes (bot body : String) (comments : Multiset Comment) :
    Except Error CommentAction → Multiset Comment → Prop where
  /-- nothing, because something went wrong -/
  | failed {e : Error} : Changes bot body comments (.error e) comments
  /-- nothing, because the bot has said so -/
  | unchanged {own : Comment} : own ∈ comments → Notice.isOwn bot own = true → own.body = body →
      Changes bot body comments (.ok .unchanged) comments
  /-- the bot's comment has the new text -/
  | updated {own : Comment} : own ∈ comments → Notice.isOwn bot own = true → own.body ≠ body →
      Changes bot body comments (.ok .updated) (comments.map (Forge.Script.rewrite own.id body))
  /-- the bot's comment is there from then on -/
  | created {id : Nat} : (∀ c ∈ comments, Notice.isOwn bot c = false) →
      (∀ c ∈ comments, c.id ≠ id) →
      Changes bot body comments (.ok .created) (⟨id, body, some bot⟩ ::ₘ comments)

/-- A failed upsert leaves the comments as they are. -/
theorem Changes.eq_of_error {body : String} {comments comments' : Multiset Comment} {e : Error}
    (h : Changes bot body comments (.error e) comments') : comments' = comments := by
  cases h
  rfl

namespace Hosts

variable {s s' : Session σ} (hosts : Hosts forge number bot view)
include hosts

theorem view_ask {c : Call} {reply : Reply c} (hc : c.writeKind? ≠ some .comment)
    (h : s.ask forge c = (reply, s')) : view s'.state = view s.state := by
  obtain ⟨-, rfl⟩ := Prod.mk.inj h
  exact hosts.reading c s.state hc

/-- So does a failed call. -/
theorem view_ask_error {c : Call} {e : Error} (h : s.ask forge c = (.error e, s')) :
    view s'.state = view s.state := by
  obtain ⟨hreply, rfl⟩ := Prod.mk.inj h
  exact hosts.failing c s.state e hreply

/-- Asking for the own login changes nothing, and the login is that of the bot. -/
theorem ask_currentUser {x : Reply .currentUser} (h : s.ask forge .currentUser = (x, s')) :
    view s'.state = view s.state ∧ ∀ login, x = .ok login → login = bot := by
  refine ⟨hosts.view_ask (by simp [Call.writeKind?]) h, fun login hlogin => ?_⟩
  obtain ⟨hreply, -⟩ := Prod.mk.inj h
  exact hosts.login s.state login (hreply.trans hlogin)

/-- Asking for the comments changes nothing, and the reply has them all. -/
theorem ask_comments {y : Reply (.comments number)}
    (h : s.ask forge (.comments number) = (y, s')) :
    view s'.state = view s.state ∧
      ∀ comments, y = .ok comments → (comments : Multiset Comment) = view s.state := by
  refine ⟨hosts.view_ask (by simp [Call.writeKind?]) h, fun comments hlisting => ?_⟩
  obtain ⟨hreply, -⟩ := Prod.mk.inj h
  exact hosts.listing s.state comments (hreply.trans hlisting)

/-- Who the bot is and what has been said is found out without changing it, in whatever order. -/
theorem askBoth {x : Reply .currentUser} {y : Reply (.comments number)}
    (h : s.AskBoth forge .currentUser (.comments number) x y s') :
    view s'.state = view s.state ∧ (∀ login, x = .ok login → login = bot) ∧
      ∀ comments, y = .ok comments → (comments : Multiset Comment) = view s.state := by
  rcases h with ⟨hfirst, hsecond⟩ | ⟨hfirst, hsecond⟩
  · obtain ⟨hview, hlogin⟩ := hosts.ask_currentUser hfirst
    obtain ⟨hview', hlisting⟩ := hosts.ask_comments hsecond
    rw [hview] at hview' hlisting
    exact ⟨hview', hlogin, hlisting⟩
  · obtain ⟨hview, hlisting⟩ := hosts.ask_comments hfirst
    obtain ⟨hview', hlogin⟩ := hosts.ask_currentUser hsecond
    rw [hview] at hview'
    exact ⟨hview', hlogin, hlisting⟩

/-- The comment step changes the comments in one of these ways. -/
theorem changes {body : String} {attempt : Except Error CommentAction}
    (h : Dispatch.Upserts forge number body s attempt s') :
    Changes bot body (view s.state) attempt (view s'.state) := by
  cases h with
  | unread hboth =>
    rw [(hosts.askBoth hboth).1]
    exact .failed
  | unchanged hboth hfind hbody =>
    obtain ⟨hview, hlogin, hlisting⟩ := hosts.askBoth hboth
    obtain rfl := hlogin _ rfl
    rw [hview, ← hlisting _ rfl]
    exact .unchanged (Multiset.mem_coe.2 (List.mem_of_find?_eq_some hfind))
      (List.find?_some hfind) hbody
  | @updated login comments existing reply mid _ hboth hfind hbody hwrite =>
    obtain ⟨hview, hlogin, hlisting⟩ := hosts.askBoth hboth
    obtain rfl := hlogin _ rfl
    rcases reply with e | u
    · rw [hosts.view_ask_error hwrite, hview]
      exact .failed
    · obtain ⟨hreply, rfl⟩ := Prod.mk.inj hwrite
      have hedited := hosts.editing mid.state existing.id body u hreply
      rw [hview] at hedited
      rw [hedited, ← hlisting _ rfl]
      exact .updated (Multiset.mem_coe.2 (List.mem_of_find?_eq_some hfind))
        (List.find?_some hfind) hbody
  | @created login comments reply mid _ hboth hfind hwrite =>
    obtain ⟨hview, hlogin, hlisting⟩ := hosts.askBoth hboth
    obtain rfl := hlogin _ rfl
    rcases reply with e | u
    · rw [hosts.view_ask_error hwrite, hview]
      exact .failed
    · obtain ⟨hreply, rfl⟩ := Prod.mk.inj hwrite
      obtain ⟨id, hnew, hposted⟩ := hosts.posting mid.state body u hreply
      rw [hview] at hnew hposted
      rw [hposted]
      refine .created (fun c hc => ?_) hnew
      rw [← hlisting _ rfl, Multiset.mem_coe] at hc
      simpa using List.find?_eq_none.1 hfind c hc

end Hosts

/-! ## Conversations -/

/-- A turn of a conversation. -/
inductive Turn where
  /-- the bot reports violations, with this result and these calls -/
  | report (violations : List Violation) (result : Except Error Dispatch) (calls : List Call)
  /-- somebody else adds a comment -/
  | remark (comment : Comment)

namespace Turn

/-- What is reported in a turn, if that succeeds. -/
def report? : Turn → Option (List Violation)
  | .report violations (.ok _) _ => some violations
  | _ => none

/-- The comment that somebody else adds in a turn. -/
def remark? : Turn → Option Comment
  | .report .. => none
  | .remark comment => some comment

end Turn

/-- The last report that succeeded. -/
def lastReport (turns : List Turn) : Option (List Violation) :=
  (turns.filterMap Turn.report?).getLast?

/-- The comments that others added. -/
def remarks (turns : List Turn) : Multiset Comment :=
  turns.filterMap Turn.remark?

/-- One turn of a conversation. A report is a run on the forge in any order of its calls; between
turns, everything about the forge but the comments may change. -/
inductive Move (forge : Forge σ) (number : Nat) (bot : String) (view : σ → Multiset Comment) :
    Multiset Comment → Turn → Multiset Comment → Prop where
  /-- the bot reports -/
  | report {pr : PullRequest} {violations : List Violation} {state : σ} {t : Forge.Trace}
      {result : Except Error Dispatch} {s' : Session σ} : pr.number = number →
      RunsTo forge (.start state) (Dispatch.perform pr (.comment violations)) t result s' →
      Move forge number bot view (view state) (.report violations result s'.calls) (view s'.state)
  /-- somebody else comments -/
  | remark {comments : Multiset Comment} {comment : Comment} :
      (∀ login ∈ comment.author, Notice.sameLogin login bot = false) →
      Move forge number bot view comments (.remark comment) (comment ::ₘ comments)

/-- A conversation, from some comments to some comments. -/
inductive Conversation (forge : Forge σ) (number : Nat) (bot : String)
    (view : σ → Multiset Comment) (initial : Multiset Comment) :
    List Turn → Multiset Comment → Prop where
  /-- nothing has happened -/
  | nil : Conversation forge number bot view initial [] initial
  /-- one more turn is taken -/
  | snoc {turns : List Turn} {turn : Turn} {comments comments' : Multiset Comment} :
      Conversation forge number bot view initial turns comments →
      Move forge number bot view comments turn comments' →
      Conversation forge number bot view initial (turns ++ [turn]) comments'

/-! ## The bot has one comment -/

/-- What the comments come down to: those of others, and a comment of the bot's with its last report
that succeeded, if one did. -/
inductive Settled (bot : String) (others : Multiset Comment) :
    Option (List Violation) → Multiset Comment → Prop where
  /-- the bot has not commented -/
  | silent : Settled bot others none others
  /-- it has -/
  | reported (id : Nat) (violations : List Violation) :
      Settled bot others (some violations)
        (⟨id, Notice.body violations, some bot⟩ ::ₘ others)

/-- To edit a comment is to replace it, because no other has its number. -/
theorem map_rewrite_cons {own : Comment} {others : Multiset Comment}
    (hids : ((own ::ₘ others).map Comment.id).Nodup) (body : String) :
    (own ::ₘ others).map (Forge.Script.rewrite own.id body) =
      { own with body := body } ::ₘ others := by
  rw [Multiset.map_cons, Multiset.nodup_cons] at hids
  have hothers : ∀ c ∈ others, Forge.Script.rewrite own.id body c = c := by
    intro c hc
    have hne : c.id ≠ own.id := fun heq => hids.1 (heq ▸ Multiset.mem_map_of_mem Comment.id hc)
    rw [Forge.Script.rewrite, if_neg hne]
  rw [Multiset.map_cons, Multiset.map_congr rfl hothers, Multiset.map_id', Forge.Script.rewrite,
    if_pos rfl]

section Settled

variable {others comments comments' : Multiset Comment} {last : Option (List Violation)}
  {violations : List Violation} {action : CommentAction}

/-- A comment that the bot recognises is the one with its last report. -/
theorem Settled.eq_of_mem {own : Comment} (h : Settled bot others last comments)
    (hothers : ∀ c ∈ others, Notice.isOwn bot c = false) (hmem : own ∈ comments)
    (hown : Notice.isOwn bot own = true) :
    ∃ id violations, last = some violations ∧ own = ⟨id, Notice.body violations, some bot⟩ ∧
      comments = own ::ₘ others := by
  cases h with
  | silent =>
    rw [hothers own hmem] at hown
    cases hown
  | reported id violations =>
    rcases Multiset.mem_cons.1 hmem with rfl | hmem
    · exact ⟨id, violations, rfl, rfl, rfl⟩
    · rw [hothers own hmem] at hown
      cases hown

/-- **A report that succeeds leaves the bot with one comment that says it**, and if it was the last
report already then nothing is done. -/
theorem Settled.report (h : Settled bot others last comments)
    (hothers : ∀ c ∈ others, Notice.isOwn bot c = false)
    (hids : (comments.map Comment.id).Nodup)
    (hchanges : Changes bot (Notice.body violations) comments (.ok action) comments') :
    Settled bot others (some violations) comments' ∧
      (last = some violations → action = .unchanged ∧ comments' = comments) := by
  cases hchanges with
  | unchanged hmem hown hbody =>
    obtain ⟨id, before, rfl, rfl, rfl⟩ := h.eq_of_mem hothers hmem hown
    have hbody : Notice.body before = Notice.body violations := hbody
    rw [hbody]
    exact ⟨.reported id violations, fun _ => ⟨rfl, rfl⟩⟩
  | updated hmem hown hbody =>
    obtain ⟨id, before, rfl, rfl, rfl⟩ := h.eq_of_mem hothers hmem hown
    rw [map_rewrite_cons hids]
    refine ⟨.reported id violations, fun hsame => ?_⟩
    -- the bot has not said this yet
    obtain rfl := Option.some.inj hsame
    exact absurd rfl hbody
  | @created id hnone hnew =>
    cases h with
    | silent => exact ⟨.reported id violations, fun hsame => by cases hsame⟩
    | reported id' before =>
      have hown := hnone _ (Multiset.mem_cons_self _ others)
      rw [Notice.isOwn_body] at hown
      cases hown

/-- A remark of somebody else is one more comment of others. -/
theorem Settled.remark (h : Settled bot others last comments) (comment : Comment) :
    Settled bot (comment ::ₘ others) last (comment ::ₘ comments) := by
  cases h with
  | silent => exact .silent
  | reported id violations =>
    rw [Multiset.cons_swap]
    exact .reported id violations

theorem filter_own_eq_zero (hothers : ∀ c ∈ others, Notice.isOwn bot c = false) :
    others.filter (fun c => Notice.isOwn bot c) = 0 := by
  rw [Multiset.filter_eq_nil]
  intro c hc hown
  rw [hothers c hc] at hown
  cases hown

/-- After a report, the bot has one comment, and it is about that report. -/
theorem Settled.own_eq (h : Settled bot others (some violations) comments)
    (hothers : ∀ c ∈ others, Notice.isOwn bot c = false) :
    ∃ own, own.body = Notice.body violations ∧
      comments.filter (fun c => Notice.isOwn bot c) = {own} := by
  cases h with
  | reported id violations =>
    refine ⟨⟨id, Notice.body violations, some bot⟩, rfl, ?_⟩
    rw [Multiset.filter_cons, if_pos (Notice.isOwn_body bot id violations),
      filter_own_eq_zero hothers, add_zero]

/-- The bot never has two. -/
theorem Settled.card_own_le (h : Settled bot others last comments)
    (hothers : ∀ c ∈ others, Notice.isOwn bot c = false) :
    (comments.filter fun c => Notice.isOwn bot c).card ≤ 1 := by
  cases last with
  | none =>
    cases h with
    | silent =>
      rw [filter_own_eq_zero hothers, Multiset.card_zero]
      exact Nat.zero_le 1
  | some violations =>
    obtain ⟨own, -, hown⟩ := h.own_eq hothers
    rw [hown, Multiset.card_singleton]

/-- What others wrote stays. -/
theorem Settled.others_eq (h : Settled bot others last comments)
    (hothers : ∀ c ∈ others, Notice.isOwn bot c = false) :
    comments.filter (fun c => ¬ Notice.isOwn bot c) = others := by
  have hall : others.filter (fun c => ¬ Notice.isOwn bot c) = others := by
    rw [Multiset.filter_eq_self]
    intro c hc hown
    rw [hothers c hc] at hown
    cases hown
  cases h with
  | silent => exact hall
  | reported id violations =>
    rw [Multiset.filter_cons, if_neg (not_not.2 (Notice.isOwn_body bot id violations)), hall,
      zero_add]

end Settled

section Turns

variable (turns : List Turn)

/-- A report that succeeded is the last one. -/
theorem lastReport_report_ok (violations : List Violation) (done : Dispatch) (calls : List Call) :
    lastReport (turns ++ [.report violations (.ok done) calls]) = some violations := by
  simp [lastReport, Turn.report?]

/-- A report that failed is none. -/
theorem lastReport_report_error (violations : List Violation) (e : Error) (calls : List Call) :
    lastReport (turns ++ [.report violations (.error e) calls]) = lastReport turns := by
  simp [lastReport, Turn.report?]

theorem lastReport_remark (comment : Comment) :
    lastReport (turns ++ [.remark comment]) = lastReport turns := by
  simp [lastReport, Turn.report?]

/-- A report adds nothing to what others wrote. -/
theorem remarks_report (violations : List Violation) (result : Except Error Dispatch)
    (calls : List Call) : remarks (turns ++ [.report violations result calls]) = remarks turns := by
  have hnone : [Turn.report violations result calls].filterMap Turn.remark? = [] := rfl
  rw [remarks, List.filterMap_append, hnone, List.append_nil]
  rfl

theorem remarks_remark (comment : Comment) :
    remarks (turns ++ [.remark comment]) = comment ::ₘ remarks turns := by
  rw [remarks, List.filterMap_append, ← Multiset.coe_add, add_comm]
  rfl

end Turns

namespace Hosts

variable (hosts : Hosts forge number bot view) {comments comments' : Multiset Comment}
  {violations : List Violation} {calls : List Call}
include hosts

/-- A request for reviews changes no comments, whatever becomes of it. -/
theorem view_requests {logins asked : List String} {s s' : Session σ}
    (h : Dispatch.Requests forge number logins s asked s') : view s'.state = view s.state := by
  cases h with
  | idle => rfl
  | asked hask => exact hosts.view_ask (by simp [Call.writeKind?]) hask

/-- A report that fails changes no comments. -/
theorem report_error {e : Error}
    (h : Move forge number bot view comments (.report violations (.error e) calls) comments') :
    comments' = comments := by
  cases h with
  | report hnumber hrun =>
    subst hnumber
    cases Dispatch.performs_of_runsTo hrun with
    | unreported hupsert =>
      exact (hosts.changes (Dispatch.upserts_of_runsTo hupsert)).eq_of_error

/-- A report that succeeds changes them as the comment step does. -/
theorem report_ok {done : Dispatch}
    (h : Move forge number bot view comments (.report violations (.ok done) calls) comments') :
    ∃ action asked, done = .commented action asked ∧ (comments.map Comment.id).Nodup ∧
      Changes bot (Notice.body violations) comments (.ok action) comments' ∧
        (action = .unchanged → .comment ∉ writeKinds calls) := by
  cases h with
  | report hnumber hrun =>
    subst hnumber
    cases Dispatch.performs_of_runsTo hrun with
    | @reported _ _ action asked mid _ hupsert hrequests =>
      have hupserts := Dispatch.upserts_of_runsTo hupsert
      refine ⟨action, asked, rfl, hosts.ids_nodup _, ?_, ?_⟩
      · rw [hosts.view_requests hrequests]
        exact hosts.changes hupserts
      · rintro rfl
        have hnone : writeKinds mid.calls = [] := hupserts.writeKinds_of_unchanged
        rcases hrequests.calls_eq with hcalls | hcalls
        · simp [hcalls, hnone]
        · rw [hcalls, writeKinds_append, hnone, writeKinds_requestReviewers]
          simp

end Hosts

/-- **However a conversation goes**, the comments are the initial ones, the remarks, and a comment
of the bot's with its last report that succeeded, if one did. -/
theorem Conversation.settled (hosts : Hosts forge number bot view)
    {initial comments : Multiset Comment} {turns : List Turn}
    (hinitial : ∀ c ∈ initial, Notice.isOwn bot c = false)
    (h : Conversation forge number bot view initial turns comments) :
    Settled bot (initial + remarks turns) (lastReport turns) comments ∧
      ∀ c ∈ initial + remarks turns, Notice.isOwn bot c = false := by
  induction h with
  | nil =>
    have hnone : initial + remarks [] = initial := add_zero initial
    rw [hnone]
    exact ⟨.silent, hinitial⟩
  | @snoc turns turn comments comments' _ hmove ih =>
    obtain ⟨hsettled, hothers⟩ := ih
    cases turn with
    | remark comment =>
      rw [lastReport_remark, remarks_remark, Multiset.add_cons]
      cases hmove with
      | remark hauthor =>
        refine ⟨hsettled.remark comment, fun c hc => ?_⟩
        rcases Multiset.mem_cons.1 hc with rfl | hc
        · exact Notice.isOwn_eq_false hauthor
        · exact hothers c hc
    | report violations result calls =>
      rw [remarks_report]
      refine ⟨?_, hothers⟩
      rcases result with e | done
      · rw [lastReport_report_error, hosts.report_error hmove]
        exact hsettled
      · obtain ⟨action, asked, -, hids, hchanges, -⟩ := hosts.report_ok hmove
        rw [lastReport_report_ok]
        exact (hsettled.report hothers hids hchanges).1

/-- **The bot's report converges to one comment.** However a conversation goes in which the bot had
no comment at first, whatever fails in it and whatever others quote: the bot has at most one
comment; all other comments are as they were at first, or as they were added; once a report has
succeeded, the bot has exactly one comment, and it is the last such report; and if that is reported
again with success, nothing is written. -/
theorem one_comment (hosts : Hosts forge number bot view) {initial comments : Multiset Comment}
    {turns : List Turn} (hinitial : ∀ c ∈ initial, Notice.isOwn bot c = false)
    (h : Conversation forge number bot view initial turns comments) :
    (comments.filter fun c => Notice.isOwn bot c).card ≤ 1 ∧
      comments.filter (fun c => ¬ Notice.isOwn bot c) = initial + remarks turns ∧
      (∀ violations, lastReport turns = some violations →
        ∃ own, own.body = Notice.body violations ∧
          comments.filter (fun c => Notice.isOwn bot c) = {own}) ∧
      ∀ violations done calls comments', lastReport turns = some violations →
        Move forge number bot view comments (.report violations (.ok done) calls) comments' →
          (∃ asked, done = .commented .unchanged asked) ∧ .comment ∉ writeKinds calls ∧
            comments' = comments := by
  obtain ⟨hsettled, hothers⟩ := h.settled hosts hinitial
  refine ⟨hsettled.card_own_le hothers, hsettled.others_eq hothers, fun violations hlast => ?_, ?_⟩
  · rw [hlast] at hsettled
    exact hsettled.own_eq hothers
  · intro violations done calls comments' hlast hmove
    obtain ⟨action, asked, rfl, hids, hchanges, hsilent⟩ := hosts.report_ok hmove
    obtain ⟨-, hsame⟩ := hsettled.report hothers hids hchanges
    obtain ⟨rfl, hcomments⟩ := hsame hlast
    exact ⟨⟨asked, rfl⟩, hsilent rfl, hcomments⟩

/-! ## A comment that quotes the bot -/

/-- Somebody quotes the marker. -/
def quote : Comment :=
  ⟨1, Notice.marker, some "mallory"⟩

/-- Somebody says something else. -/
def question : Comment :=
  ⟨2, "What does it want?", some "alice"⟩

/-- What the bot reports. -/
def complaint : List Violation :=
  [.invalidFilename "README.md"]

/-- A forge in memory, where the bot has a login. -/
def botForge : Forge { s : Forge.Script // s.Tidy "eip-bot" } :=
  Forge.Script.tidily "eip-bot" (.seconds 30)

/-- Only the quotation is there. -/
def quoted : { s : Forge.Script // s.Tidy "eip-bot" } :=
  ⟨{ Forge.Script.empty with comments := [quote] }, ⟨rfl, by decide, by decide⟩⟩

/-- The bot has reported since then, and been asked something. -/
def discussed : { s : Forge.Script // s.Tidy "eip-bot" } :=
  ⟨{ Forge.Script.empty with
      comments := [question, quote, ⟨1000, Notice.body complaint, some "eip-bot"⟩]
      created := 1 },
    ⟨rfl, by decide, by decide⟩⟩

/-- The bot reports, with one call at a time. -/
def complain (s : { s : Forge.Script // s.Tidy "eip-bot" }) :
    Except Error Dispatch × Session { s : Forge.Script // s.Tidy "eip-bot" } :=
  (Dispatch.perform Engine.edit (.comment complaint)).run botForge (.start s)

theorem move_complain {s : { s : Forge.Script // s.Tidy "eip-bot" }} {done : Dispatch}
    (h : (complain s).1 = .ok done) :
    Move botForge 1 "eip-bot" Forge.Script.commentsOf (Forge.Script.commentsOf s)
      (.report complaint (.ok done) (complain s).2.calls)
      (Forge.Script.commentsOf (complain s).2.state) := by
  obtain ⟨t, hrun⟩ := Forge.Program.runsTo_run botForge
    (Dispatch.perform_live Engine.edit (.comment complaint)) (.start s)
  have hrun : RunsTo botForge (.start s) (Dispatch.perform Engine.edit (.comment complaint)) t
      (complain s).1 (complain s).2 := hrun
  rw [h] at hrun
  exact .report rfl hrun

/-- The bot reports, and then is asked something. -/
theorem conversation_discussed : ∃ turns,
    Conversation botForge 1 "eip-bot" Forge.Script.commentsOf {quote} turns
        (Forge.Script.commentsOf discussed) ∧
      lastReport turns = some complaint := by
  have hdone : (complain quoted).1 = .ok (.commented .created []) := by decide +kernel
  have hcomments : (complain quoted).2.state.1.comments =
      [quote, ⟨1000, Notice.body complaint, some "eip-bot"⟩] := by
    decide +kernel
  have hforeign : ∀ login ∈ question.author, Notice.sameLogin login "eip-bot" = false := by
    decide +kernel
  have hasked : question ::ₘ Forge.Script.commentsOf (complain quoted).2.state =
      Forge.Script.commentsOf discussed := by
    rw [Forge.Script.commentsOf, hcomments]
    rfl
  have hconversation := (Conversation.nil.snoc (move_complain hdone)).snoc (.remark hforeign)
  rw [hasked] at hconversation
  refine ⟨_, hconversation, ?_⟩
  rw [lastReport_remark, lastReport_report_ok]

/-- If it reports the same again, nothing is written. -/
theorem one_comment_discussed : ∃ turns done calls comments',
    Conversation botForge 1 "eip-bot" Forge.Script.commentsOf {quote} turns
        (Forge.Script.commentsOf discussed) ∧
      Move botForge 1 "eip-bot" Forge.Script.commentsOf (Forge.Script.commentsOf discussed)
        (.report complaint (.ok done) calls) comments' ∧
      .comment ∉ writeKinds calls ∧ comments' = Forge.Script.commentsOf discussed := by
  obtain ⟨turns, hconversation, hlast⟩ := conversation_discussed
  have hdone : (complain discussed).1 = .ok (.commented .unchanged []) := by decide +kernel
  have hmove := move_complain hdone
  have hquote : ∀ c ∈ ({quote} : Multiset Comment), Notice.isOwn "eip-bot" c = false := by
    intro c hc
    obtain rfl := Multiset.mem_singleton.1 hc
    decide +kernel
  obtain ⟨-, -, -, hrepeat⟩ :=
    one_comment (hosts_tidily "eip-bot" (.seconds 30) 1) hquote hconversation
  obtain ⟨-, hsilent, hcomments⟩ := hrepeat complaint _ _ _ hlast hmove
  exact ⟨turns, _, _, _, hconversation, hmove, hsilent, hcomments⟩

end ProposalGate
