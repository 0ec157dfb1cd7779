import Mathlib.Data.List.Forall2
import ProposalGate.Proofs.Schedule

/-!
# The results of a program

What a program may end in is settled by the replies to its calls and by the order in which the
tasks of its pools end; the interleaving of its steps does not matter. `Program.Yields` says this
without any schedule, by recursion on the program, and `Program.Ends.yields` says that every run
ends in such a result. Facts about whole runs are proved of `Yields`, where two programs side by
side are just two programs.
-/

namespace ProposalGate.Forge.Program

variable {α β γ : Type} {answers : Answers}

/-- A program may end in a result if its calls get replies that they may get. -/
def Yields (answers : Answers) : {α : Type} → Program α → α → Prop
  | _, .done b, a => b = a
  | _, .ask c next, a => ∃ reply, answers c reply ∧ (next reply).Yields answers a
  | _, .lookUp contact next, a =>
    ∃ reply, answers (.users contact) reply ∧ (next reply).Yields answers a
  | _, .both p q next, a =>
    ∃ b c, p.Yields answers b ∧ q.Yields answers c ∧ (next b c).Yields answers a
  | _, .pool _ _ tasks next, a =>
    ∃ bs, (∀ i, (tasks i).Yields answers (bs i)) ∧
      ∃ results, results.Perm (List.ofFn bs) ∧ (next results).Yields answers a

/-- A step does not add to what a program may end in. -/
theorem Step.yields {p p' : Program α} {t : Trace} (h : Step p t p') :
    t.Meets answers → ∀ {a : α}, p'.Yields answers a → p.Yields answers a := by
  induction h with
  | ask reply =>
    intro ht a ha
    exact ⟨reply, ht _ (List.mem_singleton_self _), ha⟩
  | lookUp reply =>
    intro ht a ha
    exact ⟨reply, ht _ (List.mem_singleton_self _), ha⟩
  | first _ ih =>
    rintro ht a ⟨b, c, hb, hc, ha⟩
    exact ⟨b, c, ih ht hb, hc, ha⟩
  | second _ ih =>
    rintro ht a ⟨b, c, hb, hc, ha⟩
    exact ⟨b, c, hb, ih ht hc, ha⟩
  | join =>
    intro _ a ha
    exact ⟨_, _, rfl, rfl, ha⟩
  | @task _ _ _ _ tasks _ i p _ _ _ ih =>
    rintro ht a ⟨bs, hbs, hrest⟩
    obtain ⟨hp, hothers⟩ :=
      (Function.forall_update_iff tasks fun j q => q.Yields answers (bs j)).1 hbs
    refine ⟨bs, fun j => ?_, hrest⟩
    rcases eq_or_ne j i with rfl | hj
    · exact ih ht hp
    · exact hothers j hj
  | gather hdone hperm =>
    intro _ a ha
    exact ⟨_, fun i => by rw [hdone i]; exact rfl, _, hperm, ha⟩

/-- **Every run ends in one of the results**, whatever the order of its steps. -/
theorem Ends.yields {p : Program α} {t : Trace} {a : α} (h : p.Ends t a) (ht : t.Meets answers) :
    p.Yields answers a := by
  rw [Ends] at h
  generalize hq : Program.done a = q at h
  induction h with
  | refl => subst hq; exact rfl
  | step hs _ ih =>
    obtain ⟨hfirst, hrest⟩ := List.forall_mem_append.1 ht
    exact hs.yields hfirst (ih hrest hq)

/-! ## Putting programs together -/

@[simp] theorem bind_done {a : α} {f : α → Program β} : (done a).bind f = f a := rfl

theorem yields_bind {p : Program α} {f : α → Program β} {b : β} :
    (p.bind f).Yields answers b ↔ ∃ a, p.Yields answers a ∧ (f a).Yields answers b := by
  induction p with
  | done a => exact ⟨fun h => ⟨a, rfl, h⟩, fun ⟨_, h, h'⟩ => h ▸ h'⟩
  | ask c next ih | lookUp c next ih =>
    constructor
    · rintro ⟨reply, hreply, h⟩
      obtain ⟨a, ha, hb⟩ := (ih reply).1 h
      exact ⟨a, ⟨reply, hreply, ha⟩, hb⟩
    · rintro ⟨a, ⟨reply, hreply, ha⟩, hb⟩
      exact ⟨reply, hreply, (ih reply).2 ⟨a, ha, hb⟩⟩
  | both p q next _ _ ih =>
    constructor
    · rintro ⟨x, y, hx, hy, h⟩
      obtain ⟨a, ha, hb⟩ := (ih x y).1 h
      exact ⟨a, ⟨x, y, hx, hy, ha⟩, hb⟩
    · rintro ⟨a, ⟨x, y, hx, hy, ha⟩, hb⟩
      exact ⟨x, y, hx, hy, (ih x y).2 ⟨a, ha, hb⟩⟩
  | pool width count tasks next _ ih =>
    constructor
    · rintro ⟨bs, hbs, results, hperm, h⟩
      obtain ⟨a, ha, hb⟩ := (ih results).1 h
      exact ⟨a, ⟨bs, hbs, results, hperm, ha⟩, hb⟩
    · rintro ⟨a, ⟨bs, hbs, results, hperm, ha⟩, hb⟩
      exact ⟨bs, hbs, results, hperm, (ih results).2 ⟨a, ha, hb⟩⟩

@[simp] theorem yields_seq {p : Program α} {f : α → Program β} {b : β} :
    (p >>= f).Yields answers b ↔ ∃ a, p.Yields answers a ∧ (f a).Yields answers b :=
  yields_bind

@[simp] theorem yields_pure {a b : α} : (pure a : Program α).Yields answers b ↔ a = b :=
  Iff.rfl

@[simp] theorem yields_pair {p : Program α} {q : Program β} {a : α} {b : β} :
    (pair p q).Yields answers (a, b) ↔ p.Yields answers a ∧ q.Yields answers b := by
  constructor
  · rintro ⟨a', b', ha, hb, h⟩
    obtain ⟨rfl, rfl⟩ := Prod.mk.inj h
    exact ⟨ha, hb⟩
  · rintro ⟨ha, hb⟩
    exact ⟨a, b, ha, hb, rfl⟩

/-- The results of a pool are those of its tasks, in any order. -/
@[simp] theorem yields_forAll {width : Nat} {as : List α} {task : α → Program β} {bs : List β} :
    (forAll width as task).Yields answers bs ↔
      ∃ bs', List.Forall₂ (fun a b => (task a).Yields answers b) as bs' ∧ bs.Perm bs' := by
  constructor
  · rintro ⟨f, hf, results, hperm, rfl⟩
    refine ⟨List.ofFn f, ?_, hperm⟩
    rw [List.forall₂_iff_get]
    refine ⟨by simp, fun i hi hi' => ?_⟩
    simpa using hf ⟨i, hi⟩
  · rintro ⟨bs', hbs', hperm⟩
    -- the results have the length of the list, so they can be numbered like the tasks
    obtain ⟨hlen, hget⟩ := List.forall₂_iff_get.1 hbs'
    refine ⟨fun i => bs'.get (i.cast hlen), fun i => ?_, bs, ?_, rfl⟩
    · simpa using hget i i.isLt (hlen ▸ i.isLt)
    · rwa [show List.ofFn (fun i => bs'.get (i.cast hlen)) = bs' from ?_]
      exact List.ext_get (by simp [hlen]) (by simp)

/-- Elements that are related pair by pair have each its counterpart, in whatever order they
come. -/
theorem exists_mem_of_forall₂ {R : α → β → Prop} {as : List α} {bs bs' : List β}
    (h : List.Forall₂ R as bs') (hperm : bs.Perm bs') :
    (∀ a ∈ as, ∃ b ∈ bs, R a b) ∧ ∀ b ∈ bs, ∃ a ∈ as, R a b := by
  simp only [hperm.mem_iff]
  clear hperm
  induction h with
  | nil => simp
  | cons hab _ ih =>
    simp only [List.forall_mem_cons, List.exists_mem_cons_iff]
    exact ⟨⟨.inl hab, fun a ha => .inr (ih.1 a ha)⟩, .inl hab, fun b hb => .inr (ih.2 b hb)⟩

/-- If every element has one counterpart then these are all there are. -/
theorem eq_map_of_forall₂ {R : α → β → Prop} {f : α → β} {as : List α} {bs : List β}
    (h : List.Forall₂ R as bs) (hf : ∀ a ∈ as, ∀ b, R a b → b = f a) : bs = as.map f := by
  induction h with
  | nil => rfl
  | @cons a b _ _ hab _ ih =>
    rw [List.map_cons, hf a (List.mem_cons_self ..) b hab,
      ih fun c hc => hf c (List.mem_cons_of_mem a hc)]

/-- Each task of a pool has a result among those of the pool, and each of these is the result of a
task. -/
theorem mem_of_yields_forAll {width : Nat} {as : List α} {task : α → Program β} {bs : List β}
    (h : (forAll width as task).Yields answers bs) :
    (∀ a ∈ as, ∃ b ∈ bs, (task a).Yields answers b) ∧
      ∀ b ∈ bs, ∃ a ∈ as, (task a).Yields answers b := by
  obtain ⟨bs', hbs', hperm⟩ := yields_forAll.1 h
  exact exists_mem_of_forall₂ hbs' hperm

end ProposalGate.Forge.Program
