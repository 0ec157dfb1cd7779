import Mathlib.Data.List.FinRange
import Mathlib.Logic.Function.Basic
import ProposalGate.Forge.Program

/-!
# Schedules

`Program.run` makes the calls of a program one after the other. Nothing in a program asks for
that: two programs side by side may take their steps in any order, and so may the tasks of a pool
that are under way. This file says what the orders are and what can be seen of each.

* `Program.Step`: one step of a program, with what happened in it (`Event`). A task of a pool may
  step if it is under way, that is, if fewer tasks before it are unfinished than the pool is wide.
  The results of a pool are handed on in any order, because the tasks end in any order.
* `Program.Ends`: a whole run, with its `Trace`.
* `History`: what a trace does to a session with a forge. Look-ups are remembered there.
* `Program.RunsTo`: a whole run on a forge, in some order.

`Program.runsTo_run` is the link back: the run that makes one call at a time is one of these
orders, provided every pool of the program is wide enough for one task (`Program.Live`).
-/

namespace ProposalGate.Forge

/-- Something that happens in a run. -/
inductive Event where
  /-- a call, and the reply to it -/
  | called (c : Call) (reply : Reply c)
  /-- a look-up, and the reply it stands for -/
  | lookedUp (contact : String) (reply : Reply (.users contact))

/-- What happens in a run, in order. -/
abbrev Trace := List Event

/-- Which replies each call may get. -/
abbrev Answers := (c : Call) → Reply c → Prop

/-- One reply to each call, and no other. -/
def Answers.only (replies : (c : Call) → Reply c) : Answers :=
  fun c reply => replies c = reply

/-- The reply that came with an event is one that its call may get. -/
def Event.Meets (answers : Answers) : Event → Prop
  | .called c reply => answers c reply
  | .lookedUp contact reply => answers (.users contact) reply

/-- Every reply of a run is one that its call may get. -/
def Trace.Meets (answers : Answers) (t : Trace) : Prop :=
  ∀ e ∈ t, e.Meets answers

namespace Program

variable {α β γ : Type}

/-! ## Steps -/

/-- Whether a program has nothing left to do. -/
def isDone : Program α → Bool
  | .done _ => true
  | _ => false

/-- How many of the tasks before a task have something left to do. -/
def unfinishedBefore {count : Nat} (tasks : Fin count → Program β) (i : Fin count) : Nat :=
  (List.finRange count).countP fun j => decide (j < i) && !(tasks j).isDone

/-- One step of a program, with what happens in it. -/
inductive Step : {α : Type} → Program α → Trace → Program α → Prop where
  /-- a call is answered -/
  | ask {α : Type} {c : Call} {next : Reply c → Program α} (reply : Reply c) :
      Step (.ask c next) [.called c reply] (next reply)
  /-- a look-up is answered -/
  | lookUp {α : Type} {contact : String} {next : Reply (.users contact) → Program α}
      (reply : Reply (.users contact)) :
      Step (.lookUp contact next) [.lookedUp contact reply] (next reply)
  /-- the first of two programs steps -/
  | first {α β γ : Type} {p p' : Program β} {q : Program γ} {next : β → γ → Program α}
      {t : Trace} : Step p t p' → Step (.both p q next) t (.both p' q next)
  /-- the second of two programs steps -/
  | second {α β γ : Type} {p : Program β} {q q' : Program γ} {next : β → γ → Program α}
      {t : Trace} : Step q t q' → Step (.both p q next) t (.both p q' next)
  /-- both programs are done -/
  | join {α β γ : Type} {b : β} {c : γ} {next : β → γ → Program α} :
      Step (.both (.done b) (.done c) next) [] (next b c)
  /-- a task that is under way steps -/
  | task {α β : Type} {width count : Nat} {tasks : Fin count → Program β}
      {next : List β → Program α} {i : Fin count} {p : Program β} {t : Trace} :
      unfinishedBefore tasks i < width → Step (tasks i) t p →
      Step (.pool width count tasks next) t (.pool width count (Function.update tasks i p) next)
  /-- all tasks are done, in whatever order -/
  | gather {α β : Type} {width count : Nat} {tasks : Fin count → Program β}
      {next : List β → Program α} {bs : Fin count → β} {results : List β} :
      (∀ i, tasks i = .done (bs i)) → results.Perm (List.ofFn bs) →
      Step (.pool width count tasks next) [] (next results)

/-- Some steps of a program, one after the other. -/
inductive Steps : Program α → Trace → Program α → Prop where
  /-- no step at all -/
  | refl (p : Program α) : Steps p [] p
  /-- a step, and some more -/
  | step {p p' p'' : Program α} {t t' : Trace} :
      Step p t p' → Steps p' t' p'' → Steps p (t ++ t') p''

/-- A whole run of a program. -/
def Ends (p : Program α) (t : Trace) (a : α) : Prop :=
  Steps p t (.done a)

/-- Steps can be taken one after the other. -/
theorem Steps.trans {p p' p'' : Program α} {t t' : Trace} (h : Steps p t p')
    (h' : Steps p' t' p'') : Steps p (t ++ t') p'' := by
  induction h with
  | refl => exact h'
  | step hs _ ih =>
    rw [List.append_assoc]
    exact .step hs (ih h')

/-- Some steps, and one more. -/
theorem Steps.concat {p p' p'' : Program α} {t t' : Trace} (h : Steps p t p')
    (h' : Step p' t' p'') : Steps p (t ++ t') p'' := by
  have hone := Steps.step h' (.refl p'')
  rw [List.append_nil] at hone
  exact h.trans hone

/-- What the first of two programs can do, it can do beside the second. -/
theorem Steps.first {p p' : Program β} {q : Program γ} {next : β → γ → Program α} {t : Trace}
    (h : Steps p t p') : Steps (.both p q next) t (.both p' q next) := by
  induction h with
  | refl => exact .refl _
  | step hs _ ih => exact .step hs.first ih

/-- And the second beside the first. -/
theorem Steps.second {p : Program β} {q q' : Program γ} {next : β → γ → Program α} {t : Trace}
    (h : Steps q t q') : Steps (.both p q next) t (.both p q' next) := by
  induction h with
  | refl => exact .refl _
  | step hs _ ih => exact .step hs.second ih

/-- What a task does is of no consequence for whether it is under way. -/
theorem unfinishedBefore_update {count : Nat} (tasks : Fin count → Program β) (i : Fin count)
    (p : Program β) :
    unfinishedBefore (Function.update tasks i p) i = unfinishedBefore tasks i := by
  -- only the tasks before it are counted
  refine List.countP_congr fun j _ => ?_
  by_cases hj : j < i
  · rw [Function.update_of_ne (ne_of_lt hj)]
  · simp [hj]

/-- What a task can do, it can do in its pool, as long as there is room for it. -/
theorem Steps.task {width count : Nat} {next : List β → Program α} {i : Fin count}
    {p p' : Program β} {t : Trace} (h : Steps p t p') :
    ∀ {tasks : Fin count → Program β}, tasks i = p → unfinishedBefore tasks i < width →
      Steps (.pool width count tasks next) t
        (.pool width count (Function.update tasks i p') next) := by
  induction h with
  | refl p =>
    intro tasks hp _
    rw [← hp, Function.update_eq_self]
    exact .refl _
  | @step p p₁ p₂ t t' hs _ ih =>
    intro tasks hp hw
    subst hp
    have hrest := @ih (Function.update tasks i p₁) (Function.update_self ..)
      (by rwa [unfinishedBefore_update])
    rw [Function.update_idem] at hrest
    exact .step (.task hw hs) hrest

end Program

/-! ## Runs on a forge -/

variable {α β γ σ : Type}

/-- An event takes a session from one state to another: a call goes to the forge, and a look-up
goes there only if its reply is not known yet. -/
def Event.Happens (forge : Forge σ) (s s' : Program.Session σ) : Event → Prop
  | .called c reply => s.ask forge c = (reply, s')
  | .lookedUp contact reply => s.lookUp forge contact = (reply, s')

/-- A trace takes a session from one state to another. -/
inductive History (forge : Forge σ) : Program.Session σ → Trace → Program.Session σ → Prop where
  /-- nothing happens -/
  | nil (s : Program.Session σ) : History forge s [] s
  /-- something happens, and then the rest -/
  | cons {s s' s'' : Program.Session σ} {e : Event} {t : Trace} :
      e.Happens forge s s' → History forge s' t s'' → History forge s (e :: t) s''

theorem History.append {forge : Forge σ} {s s' s'' : Program.Session σ} {t t' : Trace}
    (h : History forge s t s') (h' : History forge s' t' s'') : History forge s (t ++ t') s'' := by
  induction h with
  | nil => exact h'
  | cons he _ ih => exact .cons he (ih h')

theorem History.single {forge : Forge σ} {s s' : Program.Session σ} {e : Event}
    (h : e.Happens forge s s') : History forge s [e] s' :=
  .cons h (.nil s')

/-- The replies a session remembers are ones that the look-ups may get. -/
def Program.Session.Remembers (answers : Answers) (s : Program.Session σ) : Prop :=
  ∀ e ∈ s.directory, answers (.users e.1) e.2

/-- A look-up is answered from the directory or by the forge, so if both keep to some answers, then
so does what the session remembers afterwards. -/
theorem Event.Happens.meets {forge : Forge σ} {answers : Answers}
    (hf : ∀ c s, answers c (forge c s).1) {s s' : Program.Session σ} {e : Event}
    (hs : s.Remembers answers) (h : e.Happens forge s s') :
    e.Meets answers ∧ s'.Remembers answers := by
  cases e with
  | called c reply =>
    simp only [Happens, Program.Session.ask, Prod.mk.injEq] at h
    obtain ⟨rfl, rfl⟩ := h
    exact ⟨hf c s.state, hs⟩
  | lookedUp contact reply =>
    simp only [Happens, Program.Session.lookUp] at h
    split at h
    -- the directory is searched by the contact, so the entry found is one for it
    · next key known hfind =>
      obtain ⟨rfl, rfl⟩ := Prod.mk.inj h
      obtain rfl : key = contact := by simpa using List.find?_some hfind
      exact ⟨hs _ (List.mem_of_find?_eq_some hfind), hs⟩
    · simp only [Program.Session.ask, Prod.mk.injEq] at h
      obtain ⟨rfl, rfl⟩ := h
      refine ⟨hf _ s.state, fun e he => ?_⟩
      rcases List.mem_cons.1 he with rfl | he
      · exact hf _ s.state
      · exact hs e he

/-- On a forge that keeps to some answers, a run that began knowing nothing does too. -/
theorem History.meets {forge : Forge σ} {answers : Answers}
    (hf : ∀ c s, answers c (forge c s).1) {s s' : Program.Session σ} {t : Trace}
    (h : History forge s t s') (hs : s.Remembers answers) : t.Meets answers := by
  induction h with
  | nil => exact fun e he => absurd he List.not_mem_nil
  | cons he _ ih =>
    obtain ⟨hmeets, hs'⟩ := he.meets hf hs
    exact List.forall_mem_cons.2 ⟨hmeets, ih hs'⟩

/-- The forge with one reply to each call. -/
def steady (replies : (c : Call) → Reply c) : Forge Unit :=
  fun c _ => (replies c, ())

namespace Program

/-- A whole run of a program on a forge, in some order, from a session to a session. -/
structure RunsTo (forge : Forge σ) (s : Session σ) (p : Program α) (t : Trace) (a : α)
    (s' : Session σ) : Prop where
  /-- the trace is one of the program -/
  ends : p.Ends t a
  /-- the trace is one of the forge -/
  history : History forge s t s'

/-- A session that has just begun remembers nothing yet. -/
theorem Session.remembers_start (answers : Answers) (state : σ) :
    (Session.start state).Remembers answers :=
  fun _ he => absurd he List.not_mem_nil

/-- Every reply in a run is one that its forge may give, remembered ones included. -/
theorem RunsTo.meets {forge : Forge σ} {answers : Answers} (hf : ∀ c s, answers c (forge c s).1)
    {state : σ} {p : Program α} {t : Trace} {a : α} {s' : Session σ}
    (h : RunsTo forge (.start state) p t a s') : t.Meets answers :=
  h.history.meets hf (Session.remembers_start answers state)

theorem RunsTo.meets_only {replies : (c : Call) → Reply c} {p : Program α} {t : Trace} {a : α}
    {s' : Session Unit} (h : RunsTo (steady replies) (.start ()) p t a s') :
    t.Meets (.only replies) :=
  h.meets fun _ _ => rfl

/-- Every pool of a program is wide enough for a task, whatever the replies. -/
def Live : {α : Type} → Program α → Prop
  | _, .done _ => True
  | _, .ask _ next => ∀ reply, (next reply).Live
  | _, .lookUp _ next => ∀ reply, (next reply).Live
  | _, .both p q next => p.Live ∧ q.Live ∧ ∀ b c, (next b c).Live
  | _, .pool width count tasks next =>
    (0 < count → 0 < width) ∧ (∀ i, (tasks i).Live) ∧ ∀ bs, (next bs).Live

/-- If the pools of a program are wide enough, and those of what follows it, then so are those of
the two together. -/
theorem Live.bind {p : Program α} {f : α → Program β} (hp : p.Live) (hf : ∀ a, (f a).Live) :
    (p.bind f).Live := by
  induction p with
  | done a => exact hf a
  | ask c next ih => exact fun reply => ih reply (hp reply) hf
  | lookUp contact next ih => exact fun reply => ih reply (hp reply) hf
  | both p q next _ _ ih => exact ⟨hp.1, hp.2.1, fun b c => ih b c (hp.2.2 b c) hf⟩
  | pool width count tasks next _ ih => exact ⟨hp.1, hp.2.1, fun bs => ih bs (hp.2.2 bs) hf⟩

/-- A step leaves the pools wide enough. -/
theorem Step.live {p p' : Program α} {t : Trace} (h : Step p t p') : p.Live → p'.Live := by
  induction h with
  | ask reply => exact fun hp => hp reply
  | lookUp reply => exact fun hp => hp reply
  | first _ ih => exact fun hp => ⟨ih hp.1, hp.2⟩
  | second _ ih => exact fun hp => ⟨hp.1, ih hp.2.1, hp.2.2⟩
  | join => exact fun hp => hp.2.2 _ _
  | @task _ _ _ _ tasks _ i p _ _ _ ih =>
    rintro ⟨hwidth, htasks, hnext⟩
    have htasks' : ∀ j, (Function.update tasks i p j).Live :=
      (Function.forall_update_iff tasks fun _ q => q.Live).2 ⟨ih (htasks i), fun j _ => htasks j⟩
    exact ⟨hwidth, htasks', hnext⟩
  | gather => exact fun hp => hp.2.2 _

theorem Steps.live {p p' : Program α} {t : Trace} (h : Steps p t p') (hp : p.Live) : p'.Live := by
  induction h with
  | refl => exact hp
  | step hs _ ih => exact ih (hs.live hp)

/-- Tasks that run in turn hand a chain of sessions on. -/
theorem Session.inTurn_chain {count : Nat} (f : Fin count → Session σ → β × Session σ)
    (s : Session σ) :
    ∃ (bs : Fin count → β) (chain : Fin (count + 1) → Session σ),
      chain 0 = s ∧ (∀ i, f i (chain i.castSucc) = (bs i, chain i.succ)) ∧
        Session.inTurn count f s = (List.ofFn bs, chain (Fin.last count)) := by
  induction count generalizing s with
  | zero => exact ⟨Fin.elim0, fun _ => s, rfl, fun i => i.elim0, rfl⟩
  | succ count ih =>
    rcases hf : f 0 s with ⟨b, s₁⟩
    obtain ⟨bs, chain, h0, hstep, hrun⟩ := ih (fun i => f i.succ) s₁
    refine ⟨Fin.cons b bs, Fin.cons s chain, rfl, fun i => ?_, ?_⟩
    · cases i using Fin.cases with
      | zero => simpa [h0] using hf
      | succ j => simpa [← Fin.succ_castSucc] using hstep j
    · simp only [Session.inTurn, hf, hrun, List.ofFn_succ, ← Fin.succ_last, Fin.cons_zero,
        Fin.cons_succ]

/-- The tasks of a pool of which the first `k` have ended. -/
def endedUpTo {count : Nat} (tasks : Fin count → Program β) (bs : Fin count → β) (k : Nat)
    (i : Fin count) : Program β :=
  if i < k then .done (bs i) else tasks i

theorem endedUpTo_zero {count : Nat} (tasks : Fin count → Program β) (bs : Fin count → β) :
    endedUpTo tasks bs 0 = tasks := by
  funext i
  simp [endedUpTo]

/-- When the next task ends, one more has. -/
theorem endedUpTo_succ {count : Nat} (tasks : Fin count → Program β) (bs : Fin count → β)
    (k : Fin count) :
    Function.update (endedUpTo tasks bs k) k (.done (bs k)) = endedUpTo tasks bs (k + 1) := by
  funext i
  rcases lt_trichotomy i k with hlt | rfl | hgt
  · rw [Function.update_of_ne hlt.ne]
    have hlt' : (i : Nat) < k := hlt
    simp [endedUpTo, hlt', Nat.lt_succ_of_lt hlt']
  · simp [endedUpTo]
  · rw [Function.update_of_ne hgt.ne']
    have hgt' : (k : Nat) < i := hgt
    simp [endedUpTo, show ¬ (i : Nat) < k by omega, show ¬ (i : Nat) < k + 1 by omega]

/-- While the tasks before it have ended, a task is under way in any pool that is not of width
zero. -/
theorem unfinishedBefore_endedUpTo {count : Nat} (tasks : Fin count → Program β)
    (bs : Fin count → β) (k : Fin count) : unfinishedBefore (endedUpTo tasks bs k) k = 0 := by
  refine List.countP_eq_zero.2 fun j _ => ?_
  by_cases hj : j < k
  · have hj' : (j : Nat) < k := hj
    simp [endedUpTo, hj', isDone]
  · simp [hj]

/-- A pool whose tasks run one after the other, along a chain of sessions, comes as far along the
chain as any of them. -/
theorem Steps.inTurn {forge : Forge σ} {width count : Nat} {tasks : Fin count → Program β}
    {next : List β → Program α} {bs : Fin count → β} {chain : Fin (count + 1) → Session σ}
    (hwidth : 0 < count → 0 < width)
    (htasks : ∀ k : Fin count, ∃ t,
      RunsTo forge (chain k.castSucc) (tasks k) t (bs k) (chain k.succ)) (k : Fin (count + 1)) :
    ∃ t, Steps (.pool width count tasks next) t
      (.pool width count (endedUpTo tasks bs k) next) ∧ History forge (chain 0) t (chain k) := by
  induction k using Fin.induction with
  | zero =>
    rw [Fin.val_zero, endedUpTo_zero]
    exact ⟨[], .refl _, .nil _⟩
  | succ k ih =>
    obtain ⟨t, hsteps, hhist⟩ := ih
    obtain ⟨t', hends, hhist'⟩ := htasks k
    -- all tasks before this one have ended, so it is under way
    have htask : endedUpTo tasks bs k.castSucc k = tasks k := by simp [endedUpTo]
    have hfree : unfinishedBefore (endedUpTo tasks bs k.castSucc) k < width := by
      rw [Fin.val_castSucc, unfinishedBefore_endedUpTo]
      exact hwidth k.pos
    have hstep : Steps (.pool width count _ next) t' (.pool width count _ next) :=
      Steps.task hends htask hfree
    rw [Fin.val_castSucc, endedUpTo_succ] at hstep
    exact ⟨t ++ t', hsteps.trans hstep, hhist.append hhist'⟩

/-- The run with one call at a time takes the steps of the program in one of the orders they may
be taken in. -/
theorem runsTo_run (forge : Forge σ) {p : Program α} (hp : p.Live) (s : Session σ) :
    ∃ t, RunsTo forge s p t (p.run forge s).1 (p.run forge s).2 := by
  induction p generalizing s with
  | done a => exact ⟨[], .refl _, .nil s⟩
  | ask c next ih =>
    rcases hs : s.ask forge c with ⟨reply, s₁⟩
    obtain ⟨t, hends, hhist⟩ := ih reply (hp reply) s₁
    have he : Event.Happens forge s s₁ (.called c reply) := hs
    simp only [run, hs]
    exact ⟨_, .step (.ask reply) hends, .append (.single he) hhist⟩
  | lookUp contact next ih =>
    rcases hs : s.lookUp forge contact with ⟨reply, s₁⟩
    obtain ⟨t, hends, hhist⟩ := ih reply (hp reply) s₁
    have he : Event.Happens forge s s₁ (.lookedUp contact reply) := hs
    simp only [run, hs]
    exact ⟨_, .step (.lookUp reply) hends, .append (.single he) hhist⟩
  | both p q next ihp ihq ih =>
    obtain ⟨hlivep, hliveq, hlive⟩ := hp
    -- the first program to its end, then the second, then what comes of both
    obtain ⟨t₁, hp₁, hh₁⟩ := ihp hlivep s
    obtain ⟨t₂, hq₂, hh₂⟩ := ihq hliveq (p.run forge s).2
    obtain ⟨t₃, hn₃, hh₃⟩ := ih _ _ (hlive _ _) (q.run forge (p.run forge s).2).2
    exact ⟨_, (Steps.first hp₁).trans ((Steps.second hq₂).trans (.step .join hn₃)),
      hh₁.append (hh₂.append hh₃)⟩
  | pool width count tasks next iht ih =>
    obtain ⟨hwidth, hlivet, hlive⟩ := hp
    obtain ⟨bs, chain, h0, hchain, hrun⟩ :=
      Session.inTurn_chain (fun i => (tasks i).run forge) s
    have htasks : ∀ k : Fin count, ∃ t,
        RunsTo forge (chain k.castSucc) (tasks k) t (bs k) (chain k.succ) := by
      intro k
      obtain ⟨t, ht⟩ := iht k (hlivet k) (chain k.castSucc)
      rw [hchain k] at ht
      exact ⟨t, ht⟩
    obtain ⟨t, hsteps, hhist⟩ := Steps.inTurn hwidth htasks (Fin.last count)
    rw [h0] at hhist
    obtain ⟨t', hends, hhist'⟩ := ih (List.ofFn bs) (hlive _) (chain (Fin.last count))
    have hall : ∀ i, endedUpTo tasks bs (Fin.last count) i = .done (bs i) := fun i => by
      simp [endedUpTo]
    simp only [run, hrun]
    exact ⟨_, hsteps.trans (.step (.gather hall (.refl _)) hends), hhist.append hhist'⟩

/-- **No order of the steps gets stuck.** However far a run has come, it can be brought to an
end. -/
theorem Live.ends (forge : Forge σ) {p p' : Program α} (hp : p.Live) {t : Trace}
    (h : Steps p t p') (s : Session σ) : ∃ t' a s', RunsTo forge s p' t' a s' := by
  obtain ⟨t', hrun⟩ := runsTo_run forge (h.live hp) s
  exact ⟨t', _, _, hrun⟩

end Program

end ProposalGate.Forge
