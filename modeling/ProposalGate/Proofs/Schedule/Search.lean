import ProposalGate.Proofs.Schedule.Replies
import ProposalGate.Proofs.Schedule.Tally

/-!
# Searches under way

In a `Step` a look-up is answered at once. On a real forge the search for a contact takes its time:
it is sent, other things happen, among them other look-ups of the same contact, and then a reply
comes, whatever the forge has to say by then. This file takes look-ups apart.

There is a cell for every contact. The first look-up of a contact finds it blank and sends the
search; while the search is under way whoever looks the contact up waits; once it is answered, all
of them go on with what is in the cell, a failure like anything else. `Move` is one move of this
kind, `Reaches` says how far some moves may come, with the `Record` of what happened. Replies are
not those of any forge in particular, so the forge may change in whatever way between two moves.

`Kept` is what all moves keep: no contact is searched for twice, and no look-up goes on with
anything but the one reply received. What is left of a record without its searches is a schedule of
the program (`Reaches.steps`), every part of which can be brought to an end (`Reaches.finish`).
Conversely, a run on a forge is one of these records, with the same calls (`RunsTo.reaches`).
-/

namespace ProposalGate.Forge

variable {α σ : Type}

/-! ## Records -/

/-- How far the search for a contact has come. -/
inductive Cell where
  /-- nobody has looked the contact up -/
  | blank
  /-- the search is under way -/
  | awaited
  /-- the search was answered -/
  | filled (reply : Except Error (List String))

/-- How far the searches for all contacts have come. -/
abbrev Cells := String → Cell

/-- Nobody has looked anyone up. -/
def Cells.blank : Cells := fun _ => .blank

/-- The cells hold no other replies than these. -/
def Cells.Agrees (replies : (contact : String) → Reply (.users contact)) (cells : Cells) : Prop :=
  ∀ contact reply, cells contact = .filled reply → reply = replies contact

theorem Cells.Agrees.update {replies : (contact : String) → Reply (.users contact)}
    {cells : Cells} (h : cells.Agrees replies) (contact : String) :
    Cells.Agrees replies (Function.update cells contact (.filled (replies contact))) := by
  intro other reply hfilled
  rcases eq_or_ne other contact with rfl | hother
  · rw [Function.update_self] at hfilled
    exact (Cell.filled.inj hfilled).symm
  · rw [Function.update_of_ne hother] at hfilled
    exact h other reply hfilled

/-- The replies that the cells hold, and some reply to everything else. -/
def Cells.replies (cells : Cells) : (c : Call) → Reply c
  | .users contact =>
    match cells contact with
    | .filled reply => reply
    | .blank | .awaited => .ok []
  | _ => .error .client

theorem Cells.agrees_replies (cells : Cells) :
    cells.Agrees fun contact => cells.replies (.users contact) := by
  intro contact reply hfilled
  simp only [replies, hfilled]

/-- What a session remembers of a contact. -/
def Program.Session.remembered (s : Program.Session σ) (contact : String) :
    Reply (.users contact) :=
  match s.directory.find? (·.1 = contact) with
  | some (_, reply) => reply
  | none => .ok []

/-- Something that happens while searches are under way. -/
inductive Signal where
  /-- a step goes on: a call is answered, or a look-up from what is in its cell -/
  | happened (e : Event)
  /-- the search for a contact is sent -/
  | sent (contact : String)
  /-- the search for a contact is answered -/
  | received (contact : String) (reply : Reply (.users contact))

namespace Signal

/-- The event that a signal is. -/
def event? : Signal → Option Event
  | .happened e => some e
  | .sent _ | .received .. => none

/-- The contact for which a search is sent. -/
def search? : Signal → Option String
  | .sent contact => some contact
  | .happened _ | .received .. => none

/-- The call that reaches the forge. A look-up does not, a search does. -/
def call? : Signal → Option Call
  | .happened e => e.call?
  | .sent contact => some (.users contact)
  | .received .. => none

/-- A signal comes with a reply of the forge. -/
inductive Gives : Signal → (c : Call) → Reply c → Prop where
  /-- to a call -/
  | called (c : Call) (reply : Reply c) : Gives (.happened (.called c reply)) c reply
  /-- to a search -/
  | received (contact : String) (reply : Reply (.users contact)) :
      Gives (.received contact reply) (.users contact) reply

end Signal

/-- What happens while searches are under way, in order. -/
abbrev Record := List Signal

namespace Record

/-- What a record is without the searches. -/
def events (record : Record) : Trace := record.filterMap Signal.event?

/-- The contacts that are searched for, in order. -/
def searches (record : Record) : List String := record.filterMap Signal.search?

/-- The calls that reach the forge, in order. -/
def calls (record : Record) : List Call := record.filterMap Signal.call?

/-- The replies of the forge, and no others. -/
def answers (record : Record) : Answers :=
  fun c reply => ∃ x ∈ record, x.Gives c reply

@[simp] theorem events_append (record record' : Record) :
    events (record ++ record') = events record ++ events record' :=
  List.filterMap_append

@[simp] theorem searches_append (record record' : Record) :
    searches (record ++ record') = searches record ++ searches record' :=
  List.filterMap_append

@[simp] theorem events_happened (t : Trace) : events (t.map .happened) = t := by
  rw [events, List.filterMap_map]
  exact List.filterMap_some

@[simp] theorem searches_happened (t : Trace) : searches (t.map .happened) = [] := by
  rw [searches, List.filterMap_map, List.filterMap_eq_nil_iff]
  exact fun _ _ => rfl

theorem mem_events {record : Record} {e : Event} : e ∈ record.events ↔ .happened e ∈ record := by
  rw [events, List.mem_filterMap]
  constructor
  · rintro ⟨x | _ | _, hx, heq⟩
    · obtain rfl := Option.some.inj heq
      exact hx
    all_goals cases heq
  · exact fun h => ⟨_, h, rfl⟩

theorem mem_searches {record : Record} {contact : String} :
    contact ∈ record.searches ↔ .sent contact ∈ record := by
  rw [searches, List.mem_filterMap]
  constructor
  · rintro ⟨_ | x | _, hx, heq⟩
    · cases heq
    · obtain rfl := Option.some.inj heq
      exact hx
    · cases heq
  · exact fun h => ⟨_, h, rfl⟩

/-- The calls of a record are those that happened in it and its searches. -/
theorem coe_calls (record : Record) : (record.calls : Multiset Call) =
    (record.events : Multiset Event).filterMap Event.call? +
      (record.searches.map Call.users : List Call) := by
  induction record with
  | nil => rfl
  | cons x record ih =>
    cases x with
    | happened e =>
      cases e with
      | called c reply => exact congrArg (c ::ₘ ·) ih
      | lookedUp contact reply => exact ih
    | sent contact =>
      have hcons : (calls (.sent contact :: record) : Multiset Call) =
          .users contact ::ₘ calls record := rfl
      rw [hcons, ih, ← Multiset.add_cons]
      rfl
    | received contact reply => exact ih

/-- If no calls are made then nothing but searches reaches the forge. -/
theorem calls_eq_searches {record : Record} (h : ∀ c reply, .happened (.called c reply) ∉ record) :
    record.calls = record.searches.map .users := by
  induction record with
  | nil => rfl
  | cons x record ih =>
    have hrest := ih fun c reply hmem => h c reply (List.mem_cons_of_mem x hmem)
    cases x with
    | happened e =>
      cases e with
      | called c reply => exact absurd (List.mem_cons_self ..) (h c reply)
      | lookedUp contact reply => exact hrest
    | sent contact => exact congrArg (Call.users contact :: ·) hrest
    | received contact reply => exact hrest

end Record

/-! ## Moves -/

namespace Program

/-- A program is at a point where it may look a contact up. -/
def Awaits (p : Program α) (contact : String) : Prop :=
  ∃ reply p', Step p [.lookedUp contact reply] p'

/-- One move, with what happens in it. -/
inductive Move : Program α → Cells → Record → Program α → Cells → Prop where
  /-- the first who looks a contact up sends the search -/
  | send {p : Program α} {cells : Cells} {contact : String} : p.Awaits contact →
      cells contact = .blank →
      Move p cells [.sent contact] p (Function.update cells contact .awaited)
  /-- a search is answered, in any way -/
  | receive {p : Program α} {cells : Cells} {contact : String} (reply : Reply (.users contact)) :
      cells contact = .awaited →
      Move p cells [.received contact reply] p (Function.update cells contact (.filled reply))
  /-- the program steps; a look-up waits for its cell to be filled, and is answered from it -/
  | step {p p' : Program α} {cells : Cells} {t : Trace} : Step p t p' →
      (∀ contact reply, .lookedUp contact reply ∈ t → cells contact = .filled reply) →
      Move p cells (t.map .happened) p' cells

/-- How far a program may come from the beginning, with what happens until then. -/
inductive Reaches (p₀ : Program α) : Record → Program α → Cells → Prop where
  /-- nothing has happened -/
  | start : Reaches p₀ [] p₀ .blank
  /-- some moves, and one more -/
  | move {p p' : Program α} {cells cells' : Cells} {record new : Record} :
      Reaches p₀ record p cells → Move p cells new p' cells' →
      Reaches p₀ (record ++ new) p' cells'

variable {p₀ p p' : Program α} {cells cells' : Cells} {record : Record}

/-! ## What all moves keep -/

/-- What a record says of the cells. -/
structure Kept (record : Record) (cells : Cells) : Prop where
  /-- no contact is searched for twice -/
  searches_nodup : record.searches.Nodup
  /-- a cell is blank until its contact is searched for -/
  blank_iff (contact : String) : cells contact = .blank ↔ .sent contact ∉ record
  /-- a cell is filled with the reply received -/
  filled_iff (contact : String) (reply : Reply (.users contact)) :
    cells contact = .filled reply ↔ .received contact reply ∈ record
  /-- a look-up goes on with what its cell is filled with -/
  lookedUp (contact : String) (reply : Reply (.users contact)) :
    .happened (.lookedUp contact reply) ∈ record → cells contact = .filled reply

theorem Kept.start : Kept [] .blank where
  searches_nodup := List.nodup_nil
  blank_iff contact := by simp [Cells.blank]
  filled_iff contact reply := by simp [Cells.blank]
  lookedUp contact reply h := absurd h List.not_mem_nil

theorem Kept.send (h : Kept record cells) {contact : String} (hblank : cells contact = .blank) :
    Kept (record ++ [.sent contact]) (Function.update cells contact .awaited) where
  searches_nodup := by
    have hnew : contact ∉ record.searches := fun hmem =>
      (h.blank_iff contact).1 hblank (Record.mem_searches.1 hmem)
    have hconcat := h.searches_nodup.concat hnew
    rw [List.concat_eq_append] at hconcat
    rw [Record.searches_append]
    exact hconcat
  blank_iff other := by
    rcases eq_or_ne other contact with rfl | hother
    · simp
    · simp [hother, h.blank_iff]
  filled_iff other reply := by
    rcases eq_or_ne other contact with rfl | hother
    · simp [← h.filled_iff, hblank]
    · simp [hother, h.filled_iff]
  lookedUp other reply hmem := by
    have hfilled := h.lookedUp other reply (by simpa using hmem)
    have hother : other ≠ contact := by
      rintro rfl
      cases hblank.symm.trans hfilled
    rwa [Function.update_of_ne hother]

theorem Kept.receive (h : Kept record cells) {contact : String}
    (reply : Reply (.users contact)) (hawaited : cells contact = .awaited) :
    Kept (record ++ [.received contact reply])
      (Function.update cells contact (.filled reply)) where
  searches_nodup := by
    rw [Record.searches_append]
    exact (List.append_nil _).symm ▸ h.searches_nodup
  blank_iff other := by
    rcases eq_or_ne other contact with rfl | hother
    · simp [← not_iff_not.2 (h.blank_iff other), hawaited]
    · simp [hother, h.blank_iff]
  filled_iff other reply' := by
    rcases eq_or_ne other contact with rfl | hother
    · simp [← h.filled_iff, hawaited, eq_comm]
    · simp [hother, h.filled_iff]
  lookedUp other reply' hmem := by
    have hfilled := h.lookedUp other reply' (by simpa using hmem)
    have hother : other ≠ contact := by
      rintro rfl
      cases hawaited.symm.trans hfilled
    rwa [Function.update_of_ne hother]

theorem Kept.step (h : Kept record cells) {t : Trace}
    (ht : ∀ contact reply, .lookedUp contact reply ∈ t → cells contact = .filled reply) :
    Kept (record ++ t.map .happened) cells where
  searches_nodup := by
    rw [Record.searches_append, Record.searches_happened, List.append_nil]
    exact h.searches_nodup
  blank_iff contact := by simp [h.blank_iff]
  filled_iff contact reply := by simp [h.filled_iff]
  lookedUp contact reply hmem := by
    rcases List.mem_append.1 hmem with hmem | hmem
    · exact h.lookedUp contact reply hmem
    · obtain ⟨e, he, heq⟩ := List.mem_map.1 hmem
      obtain rfl := Signal.happened.inj heq
      exact ht contact reply he

/-- **No contact is searched for twice, and it has one reply**, however far a program has come. -/
theorem Reaches.kept (h : Reaches p₀ record p cells) : Kept record cells := by
  induction h with
  | start => exact .start
  | move _ hmove ih =>
    cases hmove with
    | send _ hblank => exact ih.send hblank
    | receive reply hawaited => exact ih.receive reply hawaited
    | step _ ht => exact ih.step ht

/-- If all searches are those of look-ups then no contact gets two different replies. -/
theorem Kept.settled (h : Kept record cells)
    (hsearches : ∀ contact reply, .happened (.called (.users contact) reply) ∉ record) :
    record.answers.Settled := by
  rintro contact reply reply' ⟨x, hx, hgives⟩ ⟨x', hx', hgives'⟩
  cases hgives with
  | called => exact absurd hx (hsearches contact reply)
  | received =>
    cases hgives' with
    | called => exact absurd hx' (hsearches contact reply')
    | received =>
      have heq := ((h.filled_iff contact reply).2 hx).symm.trans ((h.filled_iff _ reply').2 hx')
      exact Cell.filled.inj heq

/-- What a look-up goes on with is a reply of the forge. -/
theorem Kept.meets (h : Kept record cells) : record.events.Meets record.answers := by
  intro e he
  rw [Record.mem_events] at he
  cases e with
  | called c reply => exact ⟨_, he, .called c reply⟩
  | lookedUp contact reply =>
    exact ⟨_, (h.filled_iff contact reply).1 (h.lookedUp contact reply he), .received ..⟩

/-! ## Schedules -/

/-- Without its searches, a record is a schedule. -/
theorem Reaches.steps (h : Reaches p₀ record p cells) : Steps p₀ record.events p := by
  induction h with
  | start => exact .refl p₀
  | move _ hmove ih =>
    rw [Record.events_append]
    cases hmove with
    | send | receive =>
      exact (List.append_nil _).symm ▸ ih
    | step hstep _ =>
      rw [Record.events_happened]
      exact ih.concat hstep

/-- Whoever is searched for is looked up in some schedule of the program. -/
theorem Reaches.exists_lookedUp (h : Reaches p₀ record p cells) {contact : String}
    (hmem : .sent contact ∈ record) :
    ∃ t reply p', Steps p₀ t p' ∧ .lookedUp contact reply ∈ t := by
  induction h with
  | start => exact absurd hmem List.not_mem_nil
  | move hreach hmove ih =>
    rcases List.mem_append.1 hmem with hmem | hmem
    · exact ih hmem
    · cases hmove with
      | send hawaits =>
        obtain rfl := Signal.sent.inj (List.mem_singleton.1 hmem)
        obtain ⟨reply, p', hstep⟩ := hawaits
        exact ⟨_, reply, p', hreach.steps.concat hstep, by simp⟩
      | receive => simp at hmem
      | step => simp at hmem

/-- Nothing or one thing happens in a step. -/
theorem Step.eq_nil_or_singleton {t : Trace} (h : Step p t p') : t = [] ∨ ∃ e, t = [e] := by
  induction h with
  | ask | lookUp => exact .inr ⟨_, rfl⟩
  | first _ ih | second _ ih | task _ _ ih => exact ih
  | join | gather => exact .inl rfl

variable {replies : (contact : String) → Reply (.users contact)}

/-- Whoever waits for a cell can be helped: the search is sent, if nobody has sent it, and
answered. -/
theorem Reaches.fill (h : Reaches p₀ record p cells) (hcells : cells.Agrees replies)
    {contact : String} (hawaits : p.Awaits contact) :
    ∃ new cells', Reaches p₀ (record ++ new) p cells' ∧ cells'.Agrees replies ∧
      cells' contact = .filled (replies contact) ∧ Record.events new = [] ∧
        ∀ other ∈ Record.searches new, other = contact := by
  have hupdate := hcells.update contact
  have hself := Function.update_self contact (Cell.filled (replies contact)) cells
  cases hcell : cells contact with
  | blank =>
    have hsent := h.move (.send hawaits hcell)
    have hreceived := hsent.move (.receive (replies contact) (Function.update_self ..))
    rw [Function.update_idem, List.append_assoc] at hreceived
    exact ⟨_, _, hreceived, hupdate, hself, rfl, fun other hother => List.mem_singleton.1 hother⟩
  | awaited =>
    exact ⟨_, _, h.move (.receive (replies contact) hcell), hupdate, hself, rfl,
      fun other hother => absurd hother List.not_mem_nil⟩
  | filled reply =>
    obtain rfl := hcells contact reply hcell
    refine ⟨[], cells, ?_, hcells, hcell, rfl, fun other hother => absurd hother List.not_mem_nil⟩
    rwa [List.append_nil]

/-- Whatever step a program may take, it can take after some moves, with any replies that agree
with what is known. -/
theorem Reaches.extend_step {t : Trace} (h : Reaches p₀ record p cells)
    (hcells : cells.Agrees replies) (hstep : Step p t p')
    (ht : ∀ contact reply, .lookedUp contact reply ∈ t → reply = replies contact) :
    ∃ new cells', Reaches p₀ (record ++ new) p' cells' ∧ cells'.Agrees replies ∧
      Record.events new = t ∧
        ∀ contact ∈ Record.searches new, ∃ reply, .lookedUp contact reply ∈ t := by
  -- unless the step is a look-up, it needs no cell
  by_cases hlookUp : ∃ contact reply, .lookedUp contact reply ∈ t
  · obtain ⟨contact, reply, hmem⟩ := hlookUp
    obtain rfl : t = [.lookedUp contact reply] := by
      rcases hstep.eq_nil_or_singleton with rfl | ⟨e, rfl⟩
      · exact absurd hmem List.not_mem_nil
      · rw [List.mem_singleton.1 hmem]
    obtain rfl := ht contact reply hmem
    obtain ⟨new, cells', hreach, hcells', hfilled, hevents, hsearches⟩ :=
      h.fill hcells ⟨_, _, hstep⟩
    have hmove := hreach.move (.step hstep fun other reply' hother => by
      obtain ⟨rfl, rfl⟩ := Event.lookedUp.inj (List.mem_singleton.1 hother)
      exact hfilled)
    rw [List.append_assoc] at hmove
    refine ⟨_, _, hmove, hcells', ?_, fun other hother => ?_⟩
    · rw [Record.events_append, hevents, Record.events_happened, List.nil_append]
    · rw [Record.searches_append, Record.searches_happened, List.append_nil] at hother
      obtain rfl := hsearches other hother
      exact ⟨_, hmem⟩
  · have hnone : ∀ contact reply, .lookedUp contact reply ∉ t := fun contact reply hmem =>
      hlookUp ⟨contact, reply, hmem⟩
    refine ⟨_, _, h.move (.step hstep fun contact reply hmem => absurd hmem (hnone contact reply)),
      hcells, Record.events_happened t, fun contact hmem => ?_⟩
    rw [Record.searches_happened] at hmem
    exact absurd hmem List.not_mem_nil

/-- Whatever schedule a program may follow, it can follow with some moves. -/
theorem Reaches.extend {t : Trace} (hsteps : Steps p t p') (h : Reaches p₀ record p cells)
    (hcells : cells.Agrees replies)
    (ht : ∀ contact reply, .lookedUp contact reply ∈ t → reply = replies contact) :
    ∃ new cells', Reaches p₀ (record ++ new) p' cells' ∧ Record.events new = t ∧
      ∀ contact ∈ Record.searches new, ∃ reply, .lookedUp contact reply ∈ t := by
  induction hsteps generalizing record cells with
  | refl =>
    refine ⟨[], cells, ?_, rfl, fun contact hmem => absurd hmem List.not_mem_nil⟩
    rwa [List.append_nil]
  | step hstep _ ih =>
    obtain ⟨new, cells', hreach, hcells', hevents, hsearches⟩ := h.extend_step hcells hstep
      fun contact reply hmem => ht contact reply (List.mem_append_left _ hmem)
    obtain ⟨new', cells'', hreach', hevents', hsearches'⟩ := ih hreach hcells'
      fun contact reply hmem => ht contact reply (List.mem_append_right _ hmem)
    rw [List.append_assoc] at hreach'
    refine ⟨_, _, hreach', ?_, fun contact hmem => ?_⟩
    · rw [Record.events_append, hevents, hevents']
    · rw [Record.searches_append] at hmem
      rcases List.mem_append.1 hmem with hmem | hmem
      · obtain ⟨reply, hreply⟩ := hsearches contact hmem
        exact ⟨reply, List.mem_append_left _ hreply⟩
      · obtain ⟨reply, hreply⟩ := hsearches' contact hmem
        exact ⟨reply, List.mem_append_right _ hreply⟩

/-- **No move gets stuck.** Whatever searches are under way, all can be brought to an end. -/
theorem Reaches.finish (hlive : p₀.Live) (h : Reaches p₀ record p cells) :
    ∃ new a cells', Reaches p₀ (record ++ new) (.done a) cells' := by
  obtain ⟨t, a, s', hrun⟩ := hlive.ends (steady cells.replies) h.steps (.start ())
  have ht : ∀ contact reply, .lookedUp contact reply ∈ t → reply = cells.replies (.users contact) :=
    fun contact reply hmem => (hrun.meets_only _ hmem).symm
  obtain ⟨new, cells', hreach, -, -⟩ := h.extend hrun.ends cells.agrees_replies ht
  exact ⟨new, a, cells', hreach⟩

/-- The contacts of a schedule are those searched for. -/
theorem Kept.searches_eq (h : Kept record cells)
    (hsearches : ∀ contact ∈ record.searches, ∃ reply, .lookedUp contact reply ∈ record.events) :
    (record.searches : Multiset String) = (contacts record.events).val := by
  rw [← h.searches_nodup.dedup, ← List.toFinset_val]
  refine congrArg Finset.val (Finset.ext fun contact => ?_)
  rw [List.mem_toFinset, mem_contacts]
  refine ⟨hsearches contact, fun ⟨reply, hmem⟩ => ?_⟩
  -- its cell is filled, so it is not blank
  have hfilled := h.lookedUp contact reply (Record.mem_events.1 hmem)
  by_contra hnone
  rw [Record.mem_searches, ← h.blank_iff, hfilled] at hnone
  cases hnone

/-- **A run on a forge is one of these**, with the same calls. -/
theorem RunsTo.reaches {forge : Forge σ} {state : σ} {t : Trace} {a : α} {s' : Session σ}
    (h : RunsTo forge (.start state) p t a s') :
    ∃ record cells, Reaches p record (.done a) cells ∧ record.events = t ∧
      record.calls.Perm s'.calls := by
  have ht : ∀ contact reply, .lookedUp contact reply ∈ t → reply = s'.remembered contact := by
    intro contact reply hmem
    rw [Session.remembered, h.history.find?_of_mem hmem]
  have hblank : Cells.blank.Agrees s'.remembered := fun contact reply hfilled => by cases hfilled
  obtain ⟨record, cells, hreach, rfl, hsearches⟩ := Reaches.start.extend h.ends hblank ht
  rw [List.nil_append] at hreach
  refine ⟨record, cells, hreach, rfl, Multiset.coe_eq_coe.1 ?_⟩
  rw [h.calls_eq, calls, Record.coe_calls, ← Multiset.map_coe, hreach.kept.searches_eq hsearches]

end Program

end ProposalGate.Forge
