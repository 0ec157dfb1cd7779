import ProposalGate.Proofs.Schedule.Results

/-!
# What ruins a run

Some events settle that nothing good comes of a run, whatever happens afterwards. `Doomed` says that
every result a program may still end in is bad. `RuinedBy` says that a program is doomed once one of
some events has happened. It goes by recursion on the program: an event that ruins a part of it
gives that part a bad result, and with such a result the rest is doomed. A run in which such an
event happens ends badly (`Ends.bad_of_mem`).
-/

namespace ProposalGate.Forge

/-- Any reply to any call. -/
def Answers.any : Answers :=
  fun _ _ => True

theorem Trace.meets_any (t : Trace) : t.Meets .any := by
  intro e _
  cases e <;> trivial

namespace Program

variable {α β : Type} {ruins : Event → Prop} {bad : α → Prop}

/-- Every result a program may end in is bad. -/
def Doomed (bad : α → Prop) (p : Program α) : Prop :=
  ∀ a, p.Yields .any a → bad a

/-- A program is doomed once one of some events has happened. -/
def RuinedBy (ruins : Event → Prop) : {α : Type} → (α → Prop) → Program α → Prop
  | _, _, .done _ => True
  | _, bad, .ask c next => ∀ reply,
    (ruins (.called c reply) → (next reply).Doomed bad) ∧ (next reply).RuinedBy ruins bad
  | _, bad, .lookUp contact next => ∀ reply,
    (ruins (.lookedUp contact reply) → (next reply).Doomed bad) ∧ (next reply).RuinedBy ruins bad
  | _, bad, .both p q next =>
    (∃ badFirst, p.RuinedBy ruins badFirst ∧ ∀ b c, badFirst b → (next b c).Doomed bad) ∧
      (∃ badSecond, q.RuinedBy ruins badSecond ∧ ∀ b c, badSecond c → (next b c).Doomed bad) ∧
      ∀ b c, (next b c).RuinedBy ruins bad
  | _, bad, .pool _ _ tasks next =>
    (∃ badTask, (∀ i, (tasks i).RuinedBy ruins badTask) ∧
      ∀ bs, (∃ b ∈ bs, badTask b) → (next bs).Doomed bad) ∧
      ∀ bs, (next bs).RuinedBy ruins bad

/-! ## Steps -/

/-- A step does not save a program that is doomed. -/
theorem Step.doomed {p p' : Program α} {t : Trace} (h : Step p t p') (hp : p.Doomed bad) :
    p'.Doomed bad :=
  fun a ha => hp a (h.yields t.meets_any ha)

/-- Nor do several. -/
theorem Steps.doomed {p p' : Program α} {t : Trace} (h : Steps p t p') (hp : p.Doomed bad) :
    p'.Doomed bad := by
  induction h with
  | refl => exact hp
  | step hs _ ih => exact ih (hs.doomed hp)

/-- After a step with one of the events the program is doomed, and after any other step it is as
it was. -/
theorem Step.ruinedBy {p p' : Program α} {t : Trace} (h : Step p t p') :
    ∀ {bad : α → Prop}, p.RuinedBy ruins bad →
      p'.RuinedBy ruins bad ∧ ((∃ e ∈ t, ruins e) → p'.Doomed bad) := by
  induction h with
  | ask reply | lookUp reply =>
    intro bad hp
    obtain ⟨hdoomed, hnext⟩ := hp reply
    refine ⟨hnext, ?_⟩
    rintro ⟨e, he, hruins⟩
    obtain rfl := List.mem_singleton.1 he
    exact hdoomed hruins
  | first _ ih =>
    rintro bad ⟨⟨badFirst, hp, hdoomed⟩, hq, hnext⟩
    obtain ⟨hp', hruined⟩ := ih hp
    refine ⟨⟨⟨badFirst, hp', hdoomed⟩, hq, hnext⟩, ?_⟩
    rintro he a ⟨b, c, hb, hc, ha⟩
    exact hdoomed b c (hruined he b hb) a ha
  | second _ ih =>
    rintro bad ⟨hp, ⟨badSecond, hq, hdoomed⟩, hnext⟩
    obtain ⟨hq', hruined⟩ := ih hq
    refine ⟨⟨hp, ⟨badSecond, hq', hdoomed⟩, hnext⟩, ?_⟩
    rintro he a ⟨b, c, hb, hc, ha⟩
    exact hdoomed b c (hruined he c hc) a ha
  | join =>
    rintro bad ⟨-, -, hnext⟩
    exact ⟨hnext _ _, fun ⟨_, he, _⟩ => absurd he List.not_mem_nil⟩
  | @task _ _ _ _ tasks _ i p _ _ _ ih =>
    rintro bad ⟨⟨badTask, htasks, hdoomed⟩, hnext⟩
    obtain ⟨hp, hruined⟩ := ih (htasks i)
    have htasks' : ∀ j, (Function.update tasks i p j).RuinedBy ruins badTask :=
      (Function.forall_update_iff tasks fun _ q => q.RuinedBy ruins badTask).2
        ⟨hp, fun j _ => htasks j⟩
    refine ⟨⟨⟨badTask, htasks', hdoomed⟩, hnext⟩, ?_⟩
    -- the result of a doomed task is among those of the pool, wherever it comes
    rintro he a ⟨bs, hbs, results, hperm, ha⟩
    have hi := ((Function.forall_update_iff tasks fun j q => q.Yields .any (bs j)).1 hbs).1
    have hmem : bs i ∈ results := hperm.mem_iff.2 (List.mem_ofFn.2 ⟨i, rfl⟩)
    exact hdoomed results ⟨bs i, hmem, hruined he _ hi⟩ a ha
  | gather =>
    rintro bad ⟨-, hnext⟩
    exact ⟨hnext _, fun ⟨_, he, _⟩ => absurd he List.not_mem_nil⟩

/-- Whatever ruins a program dooms what is left of it. -/
theorem Steps.ruinedBy {p p' : Program α} {t : Trace} (h : Steps p t p')
    (hp : p.RuinedBy ruins bad) :
    p'.RuinedBy ruins bad ∧ ((∃ e ∈ t, ruins e) → p'.Doomed bad) := by
  induction h with
  | refl => exact ⟨hp, fun ⟨_, he, _⟩ => absurd he List.not_mem_nil⟩
  | step hs hrest ih =>
    obtain ⟨hp₁, hruined⟩ := hs.ruinedBy hp
    obtain ⟨hp', hruined'⟩ := ih hp₁
    refine ⟨hp', ?_⟩
    rintro ⟨e, he, hruins⟩
    rcases List.mem_append.1 he with he | he
    · exact hrest.doomed (hruined ⟨e, he, hruins⟩)
    · exact hruined' ⟨e, he, hruins⟩

/-- **A run in which one of the events happens ends badly**, whatever else happens in it. -/
theorem Ends.bad_of_mem {p : Program α} {t : Trace} {a : α} (h : p.Ends t a)
    (hp : p.RuinedBy ruins bad) {e : Event} (he : e ∈ t) (hruins : ruins e) : bad a :=
  (Steps.ruinedBy h hp).2 ⟨e, he, hruins⟩ a rfl

/-! ## Putting programs together -/

theorem Doomed.pure {a : α} (h : bad a) : (pure a : Program α).Doomed bad := by
  rintro _ rfl
  exact h

/-- A program is doomed if its first part is doomed to results that doom the second. -/
theorem Doomed.bind {badFirst : α → Prop} {bad : β → Prop} {p : Program α} {f : α → Program β}
    (hp : p.Doomed badFirst) (hf : ∀ a, badFirst a → (f a).Doomed bad) :
    (p.bind f).Doomed bad := by
  intro b hb
  obtain ⟨a, ha, hb⟩ := yields_bind.1 hb
  exact hf a (hp a ha) b hb

/-- A program is ruined by what ruins either of its parts, if a bad result of the first dooms the
second. -/
theorem RuinedBy.bind {badFirst : α → Prop} {bad : β → Prop} {p : Program α} {f : α → Program β}
    (hp : p.RuinedBy ruins badFirst) (hdoomed : ∀ a, badFirst a → (f a).Doomed bad)
    (hf : ∀ a, (f a).RuinedBy ruins bad) : (p.bind f).RuinedBy ruins bad := by
  induction p with
  | done a => exact hf a
  | ask c next ih | lookUp c next ih =>
    intro reply
    obtain ⟨hreply, hnext⟩ := hp reply
    exact ⟨fun hruins => (hreply hruins).bind hdoomed, ih reply hnext hdoomed hf⟩
  | both p q next _ _ ih =>
    obtain ⟨⟨bad₁, hp, hdoomed₁⟩, ⟨bad₂, hq, hdoomed₂⟩, hnext⟩ := hp
    exact ⟨⟨bad₁, hp, fun b c hb => (hdoomed₁ b c hb).bind hdoomed⟩,
      ⟨bad₂, hq, fun b c hc => (hdoomed₂ b c hc).bind hdoomed⟩,
      fun b c => ih b c (hnext b c) hdoomed hf⟩
  | pool width count tasks next _ ih =>
    obtain ⟨⟨badTask, htasks, hdoomedTask⟩, hnext⟩ := hp
    exact ⟨⟨badTask, htasks, fun bs hbs => (hdoomedTask bs hbs).bind hdoomed⟩,
      fun bs => ih bs (hnext bs) hdoomed hf⟩

/-- A call that cannot be one of the events has no bad reply. -/
theorem RuinedBy.call {c : Call} (h : ∀ reply, ¬ ruins (.called c reply)) :
    (call c).RuinedBy ruins fun _ => False :=
  fun reply => ⟨fun hruins => absurd hruins (h reply), trivial⟩

/-- A look-up is ruined by nothing if no reply to it is ruinous. -/
theorem RuinedBy.find {contact : String} (h : ∀ reply, ¬ ruins (.lookedUp contact reply)) :
    (find contact).RuinedBy ruins fun _ => False :=
  fun reply => ⟨fun hruins => absurd hruins (h reply), trivial⟩

/-- A pair is ruined by what ruins either of its programs. -/
theorem RuinedBy.pair {badSecond : β → Prop} {p : Program α} {q : Program β}
    (hp : p.RuinedBy ruins bad) (hq : q.RuinedBy ruins badSecond) :
    (pair p q).RuinedBy ruins fun x => bad x.1 ∨ badSecond x.2 :=
  ⟨⟨bad, hp, fun _ _ hb => .pure (.inl hb)⟩, ⟨badSecond, hq, fun _ _ hc => .pure (.inr hc)⟩,
    fun _ _ => trivial⟩

/-- A pool is ruined by what ruins one of its tasks. -/
theorem RuinedBy.forAll {badTask : β → Prop} {width : Nat} {as : List α} {task : α → Program β}
    (h : ∀ a ∈ as, (task a).RuinedBy ruins badTask) :
    (forAll width as task).RuinedBy ruins fun bs => ∃ b ∈ bs, badTask b :=
  ⟨⟨badTask, fun i => h _ (List.getElem_mem i.isLt), fun _ hbs => .pure hbs⟩, fun _ => trivial⟩

end Program

end ProposalGate.Forge
