import Mathlib.Data.List.Perm.Basic
import ProposalGate.Proofs.Schedule.Results

/-!
# Two programs in step

Two forges may reply differently to the same call. A `Pairing` says which two replies may be given
at the same point, and `Twins` that two forges always reply so, whatever their states, as long as
these correspond. `Program.InStep` says that two programs make the same calls on such forges, at
the same points and with the same freedom to interleave them, and that they end in related results.

`Program.InStep.runsTo` is what this is for: every run of the first program is matched by a run of
the second with the same events in the same order, replies apart. The results are related, and the
calls that reach the two forges are the same. Which look-ups reach a forge depends on the contacts
looked up before and not on the replies, so both sessions know the same contacts
(`Session.Alike`).
-/

namespace ProposalGate.Forge

/-- Which replies two forges may give to a call at the same point. -/
abbrev Pairing := (c : Call) → Reply c → Reply c → Prop

/-- Two events are the same up to the replies, which may be given at the same point. -/
inductive Event.Pair (pairing : Pairing) : Event → Event → Prop where
  /-- the same call -/
  | called {c : Call} {reply reply' : Reply c} : pairing c reply reply' →
      Pair pairing (.called c reply) (.called c reply')
  /-- a look-up of the same contact -/
  | lookedUp {contact : String} {reply reply' : Reply (.users contact)} :
      pairing (.users contact) reply reply' →
      Pair pairing (.lookedUp contact reply) (.lookedUp contact reply')

/-- Two traces have the same events in the same order, up to the replies. -/
def Trace.Pair (pairing : Pairing) (t t' : Trace) : Prop :=
  List.Forall₂ (Event.Pair pairing) t t'

variable {α α' β β' σ σ' : Type} {pairing : Pairing} {R : α → α' → Prop}

namespace Program

/-! ## The relation -/

/-- Two programs make the same calls on two forges, and end in related results. -/
inductive InStep (pairing : Pairing) :
    {α α' : Type} → (α → α' → Prop) → Program α → Program α' → Prop where
  /-- both are done -/
  | done {α α' : Type} {R : α → α' → Prop} {a : α} {a' : α'} :
      R a a' → InStep pairing R (.done a) (.done a')
  /-- both make the same call -/
  | ask {α α' : Type} {R : α → α' → Prop} {c : Call} {next : Reply c → Program α}
      {next' : Reply c → Program α'} :
      (∀ reply reply', pairing c reply reply' → InStep pairing R (next reply) (next' reply')) →
      InStep pairing R (.ask c next) (.ask c next')
  /-- both look the same contact up -/
  | lookUp {α α' : Type} {R : α → α' → Prop} {contact : String}
      {next : Reply (.users contact) → Program α} {next' : Reply (.users contact) → Program α'} :
      (∀ reply reply', pairing (.users contact) reply reply' →
        InStep pairing R (next reply) (next' reply')) →
      InStep pairing R (.lookUp contact next) (.lookUp contact next')
  /-- both have two programs side by side that are in step -/
  | both {α α' β β' γ γ' : Type} {R : α → α' → Prop} {S : β → β' → Prop} {T : γ → γ' → Prop}
      {p : Program β} {p' : Program β'} {q : Program γ} {q' : Program γ'}
      {next : β → γ → Program α} {next' : β' → γ' → Program α'} :
      InStep pairing S p p' → InStep pairing T q q' →
      (∀ b b' c c', S b b' → T c c' → InStep pairing R (next b c) (next' b' c')) →
      InStep pairing R (.both p q next) (.both p' q' next')
  /-- both have pools of one size whose tasks are in step -/
  | pool {α α' β β' : Type} {R : α → α' → Prop} {S : β → β' → Prop} {width count : Nat}
      {tasks : Fin count → Program β} {tasks' : Fin count → Program β'}
      {next : List β → Program α} {next' : List β' → Program α'} :
      (∀ i, InStep pairing S (tasks i) (tasks' i)) →
      (∀ bs bs', List.Forall₂ S bs bs' → InStep pairing R (next bs) (next' bs')) →
      InStep pairing R (.pool width count tasks next) (.pool width count tasks' next')

/-- Programs in step are done at the same time. -/
theorem InStep.isDone_eq {p : Program α} {p' : Program α'} (h : InStep pairing R p p') :
    p.isDone = p'.isDone := by
  cases h <;> rfl

/-- A program in step with one that is done is done. -/
theorem InStep.of_done {a : α} {p' : Program α'} (h : InStep pairing R (.done a) p') :
    ∃ a', p' = .done a' ∧ R a a' := by
  cases h with
  | done hR => exact ⟨_, rfl, hR⟩

/-- A task has as many unfinished ones before it in one pool as in the other, so both pools may
start it. -/
theorem InStep.unfinishedBefore_eq {count : Nat} {tasks : Fin count → Program α}
    {tasks' : Fin count → Program α'} (h : ∀ i, InStep pairing R (tasks i) (tasks' i))
    (i : Fin count) : unfinishedBefore tasks i = unfinishedBefore tasks' i := by
  simp only [unfinishedBefore, fun j => (h j).isDone_eq]

/-- **Programs in step take the same steps**, whatever the second is told. -/
theorem Step.inStep {p p₁ : Program α} {t : Trace} (h : Step p t p₁) :
    ∀ {α' : Type} {R : α → α' → Prop} {p' : Program α'} {t' : Trace}, InStep pairing R p p' →
      t.Pair pairing t' → ∃ p₁', Step p' t' p₁' ∧ InStep pairing R p₁ p₁' := by
  induction h with
  | ask reply =>
    intro α' R p' t' hp ht
    cases hp with
    | ask hnext =>
      cases ht with
      | cons he hnil =>
        cases he with
        | @called _ _ reply' hreply =>
          cases hnil
          exact ⟨_, .ask reply', hnext _ _ hreply⟩
  | lookUp reply =>
    intro α' R p' t' hp ht
    cases hp with
    | lookUp hnext =>
      cases ht with
      | cons he hnil =>
        cases he with
        | @lookedUp _ _ reply' hreply =>
          cases hnil
          exact ⟨_, .lookUp reply', hnext _ _ hreply⟩
  | first _ ih =>
    intro α' R p' t' hp ht
    cases hp with
    | both hp hq hnext =>
      obtain ⟨p₁', hstep, hp₁⟩ := ih hp ht
      exact ⟨_, hstep.first, .both hp₁ hq hnext⟩
  | second _ ih =>
    intro α' R p' t' hp ht
    cases hp with
    | both hp hq hnext =>
      obtain ⟨q₁', hstep, hq₁⟩ := ih hq ht
      exact ⟨_, hstep.second, .both hp hq₁ hnext⟩
  | join =>
    intro α' R p' t' hp ht
    cases ht
    cases hp with
    | both hp hq hnext =>
      obtain ⟨b', rfl, hb⟩ := hp.of_done
      obtain ⟨c', rfl, hc⟩ := hq.of_done
      exact ⟨_, .join, hnext _ _ _ _ hb hc⟩
  | @task _ _ width count tasks next i p t hwidth _ ih =>
    intro α' R p' t' hp ht
    cases hp with
    | pool htasks hnext =>
      obtain ⟨p₁', hstep, hp₁⟩ := ih (htasks i) ht
      -- the same tasks are unfinished in both pools, so the task is under way in both
      rw [InStep.unfinishedBefore_eq htasks] at hwidth
      refine ⟨_, .task hwidth hstep, .pool (fun j => ?_) hnext⟩
      by_cases hj : j = i
      · subst hj
        rwa [Function.update_self, Function.update_self]
      · rw [Function.update_of_ne hj, Function.update_of_ne hj]
        exact htasks j
  | @gather _ _ width count tasks next bs results hdone hperm =>
    intro α' R p' t' hp ht
    cases ht
    cases hp with
    | @pool _ _ _ β' _ S _ _ _ tasks' _ next' htasks hnext =>
      have hdone' : ∀ i, ∃ b', tasks' i = .done b' ∧ S (bs i) b' :=
        fun i => (hdone i ▸ htasks i).of_done
      choose bs' hbs' hS using hdone'
      have hall : List.Forall₂ S (List.ofFn bs) (List.ofFn bs') := by
        rw [List.forall₂_iff_get]
        exact ⟨by simp, fun i hi hi' => by simpa using hS _⟩
      -- the second pool hands its results on in the order of the first
      obtain ⟨results', hresults, hperm'⟩ := List.perm_comp_forall₂ hperm hall
      exact ⟨_, .gather hbs' hperm', hnext _ _ hresults⟩

/-- **Programs in step stay in step**, as long as what happens to them is the same up to replies
that may be given at the same point. -/
theorem Steps.inStep {p p₁ : Program α} {t : Trace} (h : Steps p t p₁) {p' : Program α'}
    {t' : Trace} (hp : InStep pairing R p p') (ht : t.Pair pairing t') :
    ∃ p₁', Steps p' t' p₁' ∧ InStep pairing R p₁ p₁' := by
  induction h generalizing p' t' with
  | refl =>
    cases ht
    exact ⟨p', .refl p', hp⟩
  | @step _ _ _ t₁ t₂ hstep _ ih =>
    -- the second trace, cut where the first step ends
    have hfirst := List.forall₂_take t₁.length ht
    have hrest := List.forall₂_drop t₁.length ht
    rw [List.take_left] at hfirst
    rw [List.drop_left] at hrest
    obtain ⟨p₂', hstep', hp₂⟩ := hstep.inStep hp hfirst
    obtain ⟨p₁', hsteps', hp₁⟩ := ih hp₂ hrest
    rw [← List.take_append_drop t₁.length t']
    exact ⟨p₁', .step hstep' hsteps', hp₁⟩

/-- Programs in step end at the same time, in related results. -/
theorem Ends.inStep {p : Program α} {p' : Program α'} {t t' : Trace} {a : α} (h : p.Ends t a)
    (hp : InStep pairing R p p') (ht : t.Pair pairing t') : ∃ a', p'.Ends t' a' ∧ R a a' := by
  obtain ⟨_, hsteps, hdone⟩ := Steps.inStep h hp ht
  obtain ⟨a', rfl, hR⟩ := hdone.of_done
  exact ⟨a', hsteps, hR⟩

/-! ## Sessions -/

/-- Two directories know the same contacts, in the same order. -/
def Directory.Alike (pairing : Pairing) (d d' : Directory) : Prop :=
  List.Forall₂ (fun e e' => e.1 = e'.1 ∧ pairing (.users e.1) e.2 e'.2) d d'

/-- Either both directories know the reply to a look-up, or neither does. -/
theorem Directory.Alike.find? {d d' : Directory} (h : d.Alike pairing d') (contact : String) :
    (d.find? (·.1 = contact) = none ∧ d'.find? (·.1 = contact) = none) ∨
      ∃ reply reply', d.find? (·.1 = contact) = some (contact, reply) ∧
        d'.find? (·.1 = contact) = some (contact, reply') ∧
          pairing (.users contact) reply reply' := by
  induction h with
  | nil => exact .inl ⟨rfl, rfl⟩
  | @cons e e' d d' he _ ih =>
    obtain ⟨key, reply⟩ := e
    obtain ⟨key', reply'⟩ := e'
    obtain ⟨hkey, hreply⟩ := he
    obtain rfl : key = key' := hkey
    by_cases hcontact : key = contact
    · subst hcontact
      exact .inr ⟨reply, reply', by simp, by simp, hreply⟩
    · simpa [hcontact] using ih

/-- A contact that was looked up before is answered from the directory, and the session stays as it
is. -/
theorem Session.lookUp_known (forge : Forge σ) {s : Session σ} {contact : String}
    {reply : Reply (.users contact)}
    (h : s.directory.find? (·.1 = contact) = some (contact, reply)) :
    s.lookUp forge contact = (reply, s) := by
  simp only [lookUp, h]

/-- A contact that was not is asked for once, and its reply is kept. -/
theorem Session.lookUp_unknown (forge : Forge σ) {s : Session σ} {contact : String}
    (h : s.directory.find? (·.1 = contact) = none) :
    s.lookUp forge contact = ((s.ask forge (.users contact)).1,
      { (s.ask forge (.users contact)).2 with
        directory := (contact, (s.ask forge (.users contact)).1) :: s.directory }) := by
  simp only [lookUp, h]
  rfl

/-- Two sessions are alike if the states of their forges correspond, they made the same calls, and
they know the replies to the same look-ups. -/
structure Session.Alike (pairing : Pairing) (correspond : σ → σ' → Prop) (s : Session σ)
    (s' : Session σ') : Prop where
  /-- the states correspond -/
  state : correspond s.state s'.state
  /-- the calls are the same -/
  log : s'.log = s.log
  /-- the contacts looked up are the same -/
  directory : s.directory.Alike pairing s'.directory

/-- Sessions that have just begun are alike if their states correspond. -/
theorem Session.Alike.start {correspond : σ → σ' → Prop} {state : σ} {state' : σ'}
    (h : correspond state state') :
    (Session.start state).Alike pairing correspond (Session.start state') :=
  ⟨h, rfl, .nil⟩

/-- The calls that reached two forges are the same if the sessions are alike. -/
theorem Session.Alike.calls {correspond : σ → σ' → Prop} {s : Session σ} {s' : Session σ'}
    (h : s.Alike pairing correspond s') : s'.calls = s.calls :=
  congrArg List.reverse h.log

end Program

/-! ## Forges -/

/-- Two forges reply alike at the same point, and their states go on corresponding. -/
def Twins (pairing : Pairing) (correspond : σ → σ' → Prop) (forge : Forge σ)
    (forge' : Forge σ') : Prop :=
  ∀ c s s', correspond s s' → pairing c (forge c s).1 (forge' c s').1 ∧
    correspond (forge c s).2 (forge' c s').2

variable {correspond : σ → σ' → Prop} {forge : Forge σ} {forge' : Forge σ'}

/-- **What happens on one forge happens on its twin**, up to the reply. -/
theorem Event.Happens.twin (hforges : Twins pairing correspond forge forge')
    {s s₁ : Program.Session σ} {s' : Program.Session σ'} {e : Event} (h : e.Happens forge s s₁)
    (hs : s.Alike pairing correspond s') :
    ∃ e' s₁', e.Pair pairing e' ∧ e'.Happens forge' s' s₁' ∧ s₁.Alike pairing correspond s₁' := by
  cases e with
  | called c reply =>
    obtain ⟨rfl, rfl⟩ := Prod.mk.inj h
    obtain ⟨hreply, hstate⟩ := hforges c _ _ hs.state
    exact ⟨.called c (s'.ask forge' c).1, (s'.ask forge' c).2, .called hreply, rfl, hstate,
      congrArg (c :: ·) hs.log, hs.directory⟩
  | lookedUp contact reply =>
    -- either both forges are asked, or both replies are known
    rcases hs.directory.find? contact with ⟨hnone, hnone'⟩ | ⟨_, reply', hsome, hsome', hreply⟩
    · obtain ⟨rfl, rfl⟩ := Prod.mk.inj ((Program.Session.lookUp_unknown forge hnone).symm.trans h)
      obtain ⟨hreply, hstate⟩ := hforges (.users contact) _ _ hs.state
      exact ⟨_, _, .lookedUp hreply, Program.Session.lookUp_unknown forge' hnone', hstate,
        congrArg (_ :: ·) hs.log, .cons ⟨rfl, hreply⟩ hs.directory⟩
    · obtain ⟨rfl, rfl⟩ := Prod.mk.inj ((Program.Session.lookUp_known forge hsome).symm.trans h)
      exact ⟨_, s', .lookedUp hreply, Program.Session.lookUp_known forge' hsome', hs⟩

/-- A history on one forge is matched by one on its twin, event by event. -/
theorem History.twin (hforges : Twins pairing correspond forge forge')
    {s s₁ : Program.Session σ} {s' : Program.Session σ'} {t : Trace} (h : History forge s t s₁)
    (hs : s.Alike pairing correspond s') :
    ∃ t' s₁', t.Pair pairing t' ∧ History forge' s' t' s₁' ∧ s₁.Alike pairing correspond s₁' := by
  induction h generalizing s' with
  | nil => exact ⟨[], s', .nil, .nil s', hs⟩
  | cons he _ ih =>
    obtain ⟨e', s₁', hpair, he', hs₁⟩ := he.twin hforges hs
    obtain ⟨t', s₂', hpairs, hrest, hs₂⟩ := ih hs₁
    exact ⟨e' :: t', s₂', .cons hpair hpairs, .cons he' hrest, hs₂⟩

namespace Program

/-- **A run of one program is matched by a run of any program in step with it**, with the same
events in the same order, the same calls and a related result. -/
theorem InStep.runsTo (hforges : Twins pairing correspond forge forge') {state : σ} {state' : σ'}
    (hstate : correspond state state') {p : Program α} {p' : Program α'}
    (hp : InStep pairing R p p') {t : Trace} {a : α} {s : Session σ}
    (h : RunsTo forge (.start state) p t a s) :
    ∃ t' a' s', t.Pair pairing t' ∧ RunsTo forge' (.start state') p' t' a' s' ∧ R a a' ∧
      s'.calls = s.calls := by
  obtain ⟨t', s', hpair, hhistory, hs⟩ := h.history.twin hforges (.start hstate)
  obtain ⟨a', hends, hR⟩ := h.ends.inStep hp hpair
  exact ⟨t', a', s', hpair, ⟨hends, hhistory⟩, hR, hs.calls⟩

/-! ## Putting programs together -/

theorem InStep.pure {a : α} {a' : α'} (h : R a a') : InStep pairing R (pure a) (pure a') :=
  .done h

/-- Programs in step stay so when what follows them is in step for related results. -/
theorem InStep.bind {S : β → β' → Prop} {p : Program β} {p' : Program β'} {f : β → Program α}
    {f' : β' → Program α'} (hp : InStep pairing S p p')
    (hf : ∀ b b', S b b' → InStep pairing R (f b) (f' b')) :
    InStep pairing R (p.bind f) (p'.bind f') := by
  induction hp with
  | done hS => exact hf _ _ hS
  | ask _ ih => exact .ask fun reply reply' h => ih reply reply' h hf
  | lookUp _ ih => exact .lookUp fun reply reply' h => ih reply reply' h hf
  | both hp hq _ _ _ ih => exact .both hp hq fun b b' c c' hb hc => ih b b' c c' hb hc hf
  | pool htasks _ _ ih => exact .pool htasks fun bs bs' hbs => ih bs bs' hbs hf

/-- A call is in step with itself, in replies that may be given at the same point. -/
theorem InStep.call (c : Call) : InStep pairing (pairing c) (call c) (call c) :=
  .ask fun _ _ h => .done h

theorem InStep.find (contact : String) :
    InStep pairing (pairing (.users contact)) (find contact) (find contact) :=
  .lookUp fun _ _ h => .done h

/-- Two programs side by side are in step if each is with its partner. -/
theorem InStep.pair {S : β → β' → Prop} {p : Program α} {p' : Program α'} {q : Program β}
    {q' : Program β'} (hp : InStep pairing R p p') (hq : InStep pairing S q q') :
    InStep pairing (fun x x' => R x.1 x'.1 ∧ S x.2 x'.2) (pair p q) (pair p' q') :=
  .both hp hq fun _ _ _ _ ha hb => .done ⟨ha, hb⟩

/-- Pools over the same list are in step if their tasks are, entry by entry. -/
theorem InStep.forAll {S : β → β' → Prop} {width : Nat} {as : List α} {task : α → Program β}
    {task' : α → Program β'} (h : ∀ a ∈ as, InStep pairing S (task a) (task' a)) :
    InStep pairing (List.Forall₂ S) (forAll width as task) (forAll width as task') :=
  .pool (fun i => h _ (List.getElem_mem i.isLt)) fun _ _ hbs => .done hbs

end Program

end ProposalGate.Forge
