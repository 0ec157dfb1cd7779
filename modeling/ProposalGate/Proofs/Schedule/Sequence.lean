import ProposalGate.Proofs.Schedule

/-!
# One program after another

What is done with the result of a program is done after it. However the steps of the first program
are interleaved, none of the second is among them, so a run of `p.bind f` is a run of `p` followed
by a run of `f a`, where `a` is the result of the first (`RunsTo.of_bind`). A program that begins
with a call makes that call first (`RunsTo.of_ask`).

Along a run the log only grows (`History.calls_prefix`). What was called up to some point is
therefore the beginning of what was called in the whole run.
-/

namespace ProposalGate.Forge

variable {α β σ : Type} {forge : Forge σ}

/-! ## Histories -/

/-- A history can be cut anywhere. -/
theorem History.split {s s'' : Program.Session σ} {t t' : Trace}
    (h : History forge s (t ++ t') s'') : ∃ s', History forge s t s' ∧ History forge s' t' s'' := by
  induction t generalizing s with
  | nil => exact ⟨s, .nil s, h⟩
  | cons e t ih =>
    cases h with
    | cons he hrest =>
      obtain ⟨s', hfirst, hsecond⟩ := ih hrest
      exact ⟨s', .cons he hfirst, hsecond⟩

/-- Whatever happens, the log keeps what it has and gets at most one more call. -/
theorem Event.Happens.log_suffix {s s' : Program.Session σ} {e : Event}
    (h : e.Happens forge s s') : s.log <:+ s'.log := by
  cases e with
  | called c reply =>
    obtain ⟨-, rfl⟩ := Prod.mk.inj h
    exact List.suffix_cons c s.log
  | lookedUp contact reply =>
    simp only [Happens, Program.Session.lookUp] at h
    split at h
    · obtain ⟨-, rfl⟩ := Prod.mk.inj h
      exact List.suffix_refl s.log
    · obtain ⟨-, rfl⟩ := Prod.mk.inj h
      exact List.suffix_cons (.users contact) s.log

theorem History.log_suffix {s s' : Program.Session σ} {t : Trace} (h : History forge s t s') :
    s.log <:+ s'.log := by
  induction h with
  | nil => exact List.suffix_refl _
  | cons he _ ih => exact he.log_suffix.trans ih

/-- **The log only grows.** -/
theorem History.calls_prefix {s s' : Program.Session σ} {t : Trace} (h : History forge s t s') :
    s.calls <+: s'.calls :=
  List.reverse_prefix.2 h.log_suffix

namespace Program

/-! ## Steps -/

/-- A step of a program and what is done with its result is a step of the program, as long as that
is not done. -/
theorem Step.of_bind {p : Program α} {f : α → Program β} {t : Trace} {q : Program β}
    (h : Step (p.bind f) t q) :
    (∃ p', Step p t p' ∧ q = p'.bind f) ∨ ∃ a, p = .done a ∧ Step (f a) t q := by
  cases p with
  | done a => exact .inr ⟨a, rfl, h⟩
  | ask c next =>
    left
    cases h with
    | ask reply => exact ⟨next reply, .ask reply, rfl⟩
  | lookUp contact next =>
    left
    cases h with
    | lookUp reply => exact ⟨next reply, .lookUp reply, rfl⟩
  | both p₁ p₂ next =>
    left
    cases h with
    | first hs => exact ⟨_, .first hs, rfl⟩
    | second hs => exact ⟨_, .second hs, rfl⟩
    | join => exact ⟨_, .join, rfl⟩
  | pool width count tasks next =>
    left
    cases h with
    | task hw hs => exact ⟨_, .task hw hs, rfl⟩
    | gather hdone hperm => exact ⟨_, .gather hdone hperm, rfl⟩

/-- Some steps of a program and what is done with its result are steps of the program, and then,
if these come to an end, steps of the rest. -/
theorem Steps.of_bind {p : Program α} {f : α → Program β} {t : Trace} {q : Program β}
    (h : Steps (p.bind f) t q) :
    (∃ p', Steps p t p' ∧ q = p'.bind f) ∨
      ∃ a t₁ t₂, p.Ends t₁ a ∧ Steps (f a) t₂ q ∧ t = t₁ ++ t₂ := by
  generalize hr : p.bind f = r at h
  induction h generalizing p with
  | refl => exact .inl ⟨p, .refl p, hr.symm⟩
  | @step r r' q t t' hs hrest ih =>
    subst hr
    rcases hs.of_bind with ⟨p', hp, rfl⟩ | ⟨a, rfl, ha⟩
    · rcases ih rfl with ⟨p'', hp', rfl⟩ | ⟨a, t₁, t₂, ha, hq, rfl⟩
      · exact .inl ⟨p'', .step hp hp', rfl⟩
      · exact .inr ⟨a, t ++ t₁, t₂, .step hp ha, hq, (List.append_assoc t t₁ t₂).symm⟩
    · exact .inr ⟨a, [], t ++ t', .refl _, .step ha hrest, rfl⟩

/-! ## Whole runs -/

theorem Ends.of_done {a b : α} {t : Trace} (h : (done a).Ends t b) : t = [] ∧ a = b := by
  cases h with
  | refl => exact ⟨rfl, rfl⟩
  | step hs _ => cases hs

/-- A whole run of a program and what is done with its result is a run of the one and then a run of
the other. -/
theorem Ends.of_bind {p : Program α} {f : α → Program β} {t : Trace} {b : β}
    (h : (p.bind f).Ends t b) :
    ∃ a t₁ t₂, p.Ends t₁ a ∧ (f a).Ends t₂ b ∧ t = t₁ ++ t₂ := by
  rcases Steps.of_bind h with ⟨p', hp, hdone⟩ | ⟨a, t₁, t₂, ha, hb, ht⟩
  · -- nothing is left to do, so the first program is done as well
    cases p' with
    | done a =>
      have hb : f a = .done b := hdone.symm
      refine ⟨a, t, [], hp, ?_, (List.append_nil t).symm⟩
      rw [hb]
      exact .refl _
    | _ => cases hdone
  · exact ⟨a, t₁, t₂, ha, hb, ht⟩

theorem Ends.of_ask {c : Call} {next : Reply c → Program α} {t : Trace} {a : α}
    (h : (ask c next).Ends t a) :
    ∃ reply t', (next reply).Ends t' a ∧ t = .called c reply :: t' := by
  cases h with
  | step hs hrest =>
    cases hs with
    | ask reply => exact ⟨reply, _, hrest, rfl⟩

theorem RunsTo.of_done {a b : α} {t : Trace} {s s' : Session σ}
    (h : RunsTo forge s (done a) t b s') : t = [] ∧ a = b ∧ s' = s := by
  obtain ⟨rfl, rfl⟩ := h.ends.of_done
  have hhistory := h.history
  cases hhistory
  exact ⟨rfl, rfl, rfl⟩

/-- **A run of one program after another** is a run of the one, to some session, and a run of the
other from there. -/
theorem RunsTo.of_bind {p : Program α} {f : α → Program β} {t : Trace} {b : β} {s s'' : Session σ}
    (h : RunsTo forge s (p.bind f) t b s'') :
    ∃ a t₁ t₂ s', RunsTo forge s p t₁ a s' ∧ RunsTo forge s' (f a) t₂ b s'' ∧ t = t₁ ++ t₂ := by
  obtain ⟨a, t₁, t₂, hfirst, hsecond, rfl⟩ := h.ends.of_bind
  obtain ⟨s', hs, hs'⟩ := h.history.split
  exact ⟨a, t₁, t₂, s', ⟨hfirst, hs⟩, ⟨hsecond, hs'⟩, rfl⟩

/-- A call is logged last. -/
theorem Session.calls_ask {c : Call} {reply : Reply c} {s s' : Session σ}
    (h : s.ask forge c = (reply, s')) : s'.calls = s.calls ++ [c] := by
  obtain ⟨-, rfl⟩ := Prod.mk.inj h
  exact List.reverse_cons ..

/-- A run that begins with a call gets the forge's reply to it, and goes on with that. -/
theorem RunsTo.of_ask {c : Call} {next : Reply c → Program α} {t : Trace} {a : α}
    {s s'' : Session σ} (h : RunsTo forge s (ask c next) t a s'') :
    ∃ t', RunsTo forge (s.ask forge c).2 (next (s.ask forge c).1) t' a s'' ∧
      t = .called c (s.ask forge c).1 :: t' := by
  obtain ⟨reply, t', hrest, rfl⟩ := h.ends.of_ask
  have hhistory := h.history
  cases hhistory with
  | cons he hs =>
    have hask : s.ask forge c = (reply, _) := he
    rw [hask]
    exact ⟨t', ⟨hrest, hs⟩, rfl⟩

theorem RunsTo.of_call {c : Call} {t : Trace} {reply : Reply c} {s s' : Session σ}
    (h : RunsTo forge s (call c) t reply s') :
    s.ask forge c = (reply, s') ∧ t = [.called c reply] := by
  obtain ⟨t', hdone, rfl⟩ := h.of_ask
  obtain ⟨rfl, rfl, rfl⟩ := hdone.of_done
  exact ⟨rfl, rfl⟩

end Program

end ProposalGate.Forge
