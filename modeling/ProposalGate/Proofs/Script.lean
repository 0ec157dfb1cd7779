import ProposalGate.Forge.Script
import ProposalGate.Proofs.Dispatch

/-!
# A forge in memory that is kept tidy

The number that a script gives the next comment grows with the comments that are created, so it is
new as long as it was above all others to begin with. `Script.Tidy` says so, and every call keeps it
so, whether it is answered or fails (`Tidy.within`). A script that is tidy can therefore be taken for
the state of a forge where comments never share a number (`tidily`).
-/

namespace ProposalGate.Forge.Script

variable {bot : String} {budget : Duration} {s : Script}

/-- The comments have different numbers, all below the next, and the bot has its login. -/
structure Tidy (bot : String) (s : Script) : Prop where
  /-- this is the login -/
  bot_eq : s.bot = bot
  /-- no two comments have one number -/
  ids_nodup : (s.comments.map Comment.id).Nodup
  /-- no comment has the next number, or one that comes later -/
  ids_lt : ∀ c ∈ s.comments, c.id < s.nextId

/-- A call fails without an effect, or it is answered. -/
theorem within_cases (budget : Duration) (c : Call) (s : Script) :
    (∃ e, within budget c s = (.error e, s)) ∨ within budget c s = answer c s := by
  rw [within]
  split
  · split
    · exact .inl ⟨_, rfl⟩
    · split
      · exact .inl ⟨_, rfl⟩
      · exact .inr rfl
  · exact .inl ⟨_, rfl⟩
  · exact .inr rfl

/-- Only writing a comment changes what a script knows. -/
theorem answer_state {c : Call} (s : Script) (hc : c.writeKind? ≠ some .comment) :
    (answer c s).2 = s := by
  cases c with
  | createComment | updateComment => exact absurd rfl hc
  | pullRequest number =>
    rw [answer]
    split <;> rfl
  | _ => rfl

/-- The only call that may be answered with an error is not about comments. -/
theorem answer_error {c : Call} {e : Error} (h : (answer c s).1 = .error e) :
    (answer c s).2 = s := by
  refine answer_state s fun hc => ?_
  cases c with
  | createComment | updateComment => cases h
  | _ => cases hc

/-- A call that succeeds was in time and did not fail. -/
theorem within_ok {c : Call} {a : c.Answer} (h : (within budget c s).1 = .ok a) :
    within budget c s = answer c s := by
  rcases within_cases budget c s with ⟨e, heq⟩ | heq
  · rw [heq] at h
    cases h
  · exact heq

/-- A call that fails or takes too long changes nothing. -/
theorem within_error {c : Call} {e : Error} (h : (within budget c s).1 = .error e) :
    (within budget c s).2 = s := by
  rcases within_cases budget c s with ⟨e', heq⟩ | heq
  · rw [heq]
  · rw [heq] at h ⊢
    exact answer_error h

theorem within_state {c : Call} (budget : Duration) (s : Script)
    (hc : c.writeKind? ≠ some .comment) : (within budget c s).2 = s := by
  rcases within_cases budget c s with ⟨e, heq⟩ | heq
  · rw [heq]
  · rw [heq]
    exact answer_state s hc

/-- A comment that is created comes behind those that are there. -/
theorem comments_createComment {number : Nat} {body : String} {u : Unit}
    (h : (within budget (.createComment number body) s).1 = .ok u) :
    (within budget (.createComment number body) s).2.comments =
      s.comments ++ [⟨s.nextId, body, some s.bot⟩] := by
  rw [within_ok h]
  rfl

/-- A comment that is updated stays where it is. -/
theorem comments_updateComment {number id : Nat} {body : String} {u : Unit}
    (h : (within budget (.updateComment number id body) s).1 = .ok u) :
    (within budget (.updateComment number id body) s).2.comments =
      s.comments.map (rewrite id body) := by
  rw [within_ok h]
  rfl

/-- A new text does not make it another comment. -/
theorem rewrite_id (id : Nat) (body : String) (c : Comment) : (rewrite id body c).id = c.id := by
  rw [rewrite]
  split <;> rfl

theorem map_id_rewrite (id : Nat) (body : String) (comments : List Comment) :
    (comments.map (rewrite id body)).map Comment.id = comments.map Comment.id := by
  rw [List.map_map]
  exact List.map_congr_left fun c _ => rewrite_id id body c

/-- A new comment has a number of its own. -/
theorem Tidy.createComment (h : s.Tidy bot) (number : Nat) (body : String) :
    (answer (.createComment number body) s).2.Tidy bot := by
  have hlater : ∀ {n}, n ≤ s.nextId → n < { s with created := s.created + 1 }.nextId := by
    intro n hn
    rw [nextId] at hn ⊢
    simp only
    omega
  refine ⟨h.bot_eq, ?_, fun c hc => ?_⟩
  · simp only [answer, List.map_append, List.map_singleton]
    refine List.nodup_append.2 ⟨h.ids_nodup, List.nodup_singleton _, fun id hid next hnext => ?_⟩
    obtain ⟨c, hc, rfl⟩ := List.mem_map.1 hid
    obtain rfl := List.mem_singleton.1 hnext
    exact (h.ids_lt c hc).ne
  · rcases List.mem_append.1 hc with hc | hc
    · exact hlater (h.ids_lt c hc).le
    · obtain rfl := List.mem_singleton.1 hc
      exact hlater le_rfl

/-- A new text leaves the numbers as they are. -/
theorem Tidy.updateComment (h : s.Tidy bot) (number id : Nat) (body : String) :
    (answer (.updateComment number id body) s).2.Tidy bot := by
  refine ⟨h.bot_eq, ?_, fun c hc => ?_⟩
  · simp only [answer, map_id_rewrite]
    exact h.ids_nodup
  · obtain ⟨before, hbefore, rfl⟩ := List.mem_map.1 hc
    rw [rewrite_id]
    exact h.ids_lt before hbefore

/-- **Every call leaves a tidy script tidy.** -/
theorem Tidy.within (h : s.Tidy bot) (budget : Duration) (c : Call) :
    (within budget c s).2.Tidy bot := by
  rcases within_cases budget c s with ⟨e, heq⟩ | heq
  · rw [heq]
    exact h
  · rw [heq]
    cases c with
    | createComment number body => exact h.createComment number body
    | updateComment number id body => exact h.updateComment number id body
    | _ =>
      rw [answer_state s (by simp [Call.writeKind?])]
      exact h

/-- The comments of a tidy script, in no order. -/
def commentsOf (s : { s : Script // s.Tidy bot }) : Multiset Comment :=
  s.1.comments

/-- The forge that a script describes, as long as it is tidy. -/
def tidily (bot : String) (budget : Duration) : Forge { s : Script // s.Tidy bot } :=
  fun c s => ((within budget c s.1).1, ⟨(within budget c s.1).2, s.2.within budget c⟩)

theorem commentsOf_tidily (c : Call) (s : { s : Script // s.Tidy bot }) :
    commentsOf (tidily bot budget c s).2 =
      ((Script.within budget c s.1).2.comments : List Comment) :=
  rfl

end ProposalGate.Forge.Script
