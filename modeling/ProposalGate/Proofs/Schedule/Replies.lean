import ProposalGate.Proofs.Schedule

/-!
# The replies of a run

What a run knows of its forge are the replies it got. `Trace.answers` collects them, so whatever is
proved of all replies that a forge may give (`Answers`) can be said of the replies of one run.

A forge may change its mind between two calls, but not about a contact: the first reply to a look-up
is remembered, and every later look-up of the contact has the same one
(`History.lookedUp_unique`). Nothing is asked of the forge for this.
-/

namespace ProposalGate.Forge

variable {σ : Type} {forge : Forge σ} {s s' : Program.Session σ} {t : Trace} {contact : String}

/-- An event comes with a reply to a call. -/
inductive Event.Gives : Event → (c : Call) → Reply c → Prop where
  /-- to the call that is made -/
  | called (c : Call) (reply : Reply c) : Gives (.called c reply) c reply
  /-- to the search that a look-up stands for -/
  | lookedUp (contact : String) (reply : Reply (.users contact)) :
      Gives (.lookedUp contact reply) (.users contact) reply

/-- The replies that came in a run, and no others. -/
def Trace.answers (t : Trace) : Answers :=
  fun c reply => ∃ e ∈ t, e.Gives c reply

theorem Trace.meets_answers (t : Trace) : t.Meets t.answers := by
  intro e he
  cases e with
  | called c reply => exact ⟨_, he, .called c reply⟩
  | lookedUp contact reply => exact ⟨_, he, .lookedUp contact reply⟩

/-- What came in a run is what may come. -/
theorem Trace.Meets.of_answers {answers : Answers} (h : t.Meets answers) {c : Call} {reply : Reply c}
    (hreply : t.answers c reply) : answers c reply := by
  obtain ⟨e, he, hgives⟩ := hreply
  have hmeets := h e he
  cases hgives <;> exact hmeets

/-- No contact gets two different replies. -/
def Answers.Settled (answers : Answers) : Prop :=
  ∀ contact reply reply', answers (.users contact) reply → answers (.users contact) reply' →
    reply = reply'

theorem Answers.settled_only (replies : (c : Call) → Reply c) : (Answers.only replies).Settled :=
  fun _ _ _ h h' => h.symm.trans h'

/-! ## What the directory remembers -/

/-- The reply to a look-up is in the directory afterwards. -/
theorem Event.Happens.find?_lookedUp {reply : Reply (.users contact)}
    (h : (Event.lookedUp contact reply).Happens forge s s') :
    s'.directory.find? (·.1 = contact) = some (contact, reply) := by
  simp only [Happens, Program.Session.lookUp] at h
  split at h
  · next key known hfind =>
    obtain ⟨rfl, rfl⟩ := Prod.mk.inj h
    obtain rfl : key = contact := by simpa using List.find?_some hfind
    exact hfind
  · obtain ⟨rfl, rfl⟩ := Prod.mk.inj h
    simp

/-- What the directory says of a contact it says from then on. -/
theorem Event.Happens.find?_eq_some {e : Event} (h : e.Happens forge s s')
    {entry : String × Except Error (List String)}
    (hfind : s.directory.find? (·.1 = contact) = some entry) :
    s'.directory.find? (·.1 = contact) = some entry := by
  cases e with
  | called c reply =>
    obtain ⟨-, rfl⟩ := Prod.mk.inj h
    exact hfind
  | lookedUp other reply =>
    simp only [Happens, Program.Session.lookUp] at h
    split at h
    · obtain ⟨-, rfl⟩ := Prod.mk.inj h
      exact hfind
    -- the entry that is added is for a contact that was not in the directory
    · next hnone =>
      obtain ⟨-, rfl⟩ := Prod.mk.inj h
      have hother : other ≠ contact := by
        rintro rfl
        cases hnone.symm.trans hfind
      rw [List.find?_cons_of_neg (by simpa using hother)]
      exact hfind

theorem History.find?_eq_some (h : History forge s t s')
    {entry : String × Except Error (List String)}
    (hfind : s.directory.find? (·.1 = contact) = some entry) :
    s'.directory.find? (·.1 = contact) = some entry := by
  induction h with
  | nil => exact hfind
  | cons he _ ih => exact ih (he.find?_eq_some hfind)

theorem History.find?_of_mem (h : History forge s t s') {reply : Reply (.users contact)}
    (hmem : .lookedUp contact reply ∈ t) :
    s'.directory.find? (·.1 = contact) = some (contact, reply) := by
  induction h with
  | nil => exact absurd hmem List.not_mem_nil
  | cons he hrest ih =>
    rcases List.mem_cons.1 hmem with rfl | hmem
    · exact hrest.find?_eq_some he.find?_lookedUp
    · exact ih hmem

/-- **A contact has one reply in a run**, whatever becomes of the forge in the meantime. -/
theorem History.lookedUp_unique (h : History forge s t s') {reply reply' : Reply (.users contact)}
    (hmem : .lookedUp contact reply ∈ t) (hmem' : .lookedUp contact reply' ∈ t) :
    reply = reply' := by
  have heq := (h.find?_of_mem hmem).symm.trans (h.find?_of_mem hmem')
  exact (Prod.mk.inj (Option.some.inj heq)).2

/-- If all searches of a run are look-ups, then no contact gets two different replies. -/
theorem History.settled (h : History forge s t s')
    (hsearches : ∀ contact reply, .called (.users contact) reply ∉ t) : t.answers.Settled := by
  rintro contact reply reply' ⟨e, he, hgives⟩ ⟨e', he', hgives'⟩
  cases hgives with
  | called => exact absurd he (hsearches contact reply)
  | lookedUp =>
    cases hgives' with
    | called => exact absurd he' (hsearches contact reply')
    | lookedUp => exact h.lookedUp_unique he he'

end ProposalGate.Forge
