import Mathlib.Algebra.BigOperators.Fin
import Mathlib.Data.List.Forall2
import Mathlib.Data.Multiset.Dedup
import ProposalGate.Proofs.Schedule.Sequence

/-!
# What happens in a run, in no order

The tasks of a pool are interleaved in any order, but what happens in each of them happens, whatever
the others do. `Program.Tallies` adds this up by recursion on the program: it says which events,
taken together and without an order, a program may end in a result after. Every run is one of these
(`Ends.tallies`).

Not every look-up reaches the forge. What does is counted by `calls`: all calls, and one search for
every contact that was looked up, however often it was (`RunsTo.calls_eq`). Here too the order is of
no consequence, because the first look-up of a contact searches for it, whichever that is. A
`Footprint` says both of some events, their calls and their look-ups, so that it can be put together
from those of the parts of a program.
-/

namespace ProposalGate.Forge

variable {α β σ : Type}

namespace Program

/-! ## Programs -/

/-- A program may end in a result after some events, in whatever order these happened. -/
def Tallies : {α : Type} → Program α → Multiset Event → α → Prop
  | _, .done b, m, a => m = 0 ∧ b = a
  | _, .ask c next, m, a =>
    ∃ reply m', m = .called c reply ::ₘ m' ∧ (next reply).Tallies m' a
  | _, .lookUp contact next, m, a =>
    ∃ reply m', m = .lookedUp contact reply ::ₘ m' ∧ (next reply).Tallies m' a
  | _, .both p q next, m, a =>
    ∃ b c m₁ m₂ m₃, p.Tallies m₁ b ∧ q.Tallies m₂ c ∧ (next b c).Tallies m₃ a ∧
      m = m₁ + m₂ + m₃
  | _, .pool _ count tasks next, m, a =>
    ∃ bs, ∃ ms : Fin count → Multiset Event, ∃ results m',
      (∀ i, (tasks i).Tallies (ms i) (bs i)) ∧ results.Perm (List.ofFn bs) ∧
        (next results).Tallies m' a ∧ m = ∑ i, ms i + m'

/-- What happens in one task happens in the pool. -/
theorem sum_update_add {count : Nat} (ms : Fin count → Multiset Event) (i : Fin count)
    (m : Multiset Event) : ∑ j, Function.update ms i (m + ms i) j = m + ∑ j, ms j := by
  rw [Finset.sum_update_of_mem (Finset.mem_univ i), add_assoc,
    ← Finset.sum_eq_add_sum_sdiff_singleton_of_mem (Finset.mem_univ i)]

/-- What happens in a step is added to what happens afterwards. -/
theorem Step.tallies {p p' : Program α} {t : Trace} (h : Step p t p') :
    ∀ {m : Multiset Event} {a : α}, p'.Tallies m a → p.Tallies (t + m) a := by
  induction h with
  | ask reply => exact fun hm => ⟨reply, _, rfl, hm⟩
  | lookUp reply => exact fun hm => ⟨reply, _, rfl, hm⟩
  | @first _ _ _ p p' q next t _ ih =>
    rintro _ a ⟨b, c, m₁, m₂, m₃, hb, hc, ha, rfl⟩
    refine ⟨b, c, t + m₁, m₂, m₃, ih hb, hc, ha, ?_⟩
    rw [add_assoc, add_assoc, add_assoc]
  | @second _ _ _ p q q' next t _ ih =>
    rintro _ a ⟨b, c, m₁, m₂, m₃, hb, hc, ha, rfl⟩
    refine ⟨b, c, m₁, t + m₂, m₃, hb, ih hc, ha, ?_⟩
    rw [← add_assoc, ← add_assoc, ← add_assoc, add_comm (t : Multiset Event) m₁]
  | join => exact fun hm => ⟨_, _, 0, 0, _, ⟨rfl, rfl⟩, ⟨rfl, rfl⟩, hm, by simp⟩
  | @task _ _ width count tasks next i p t _ _ ih =>
    rintro _ a ⟨bs, ms, results, m', hms, hperm, ha, rfl⟩
    obtain ⟨hp, hothers⟩ :=
      (Function.forall_update_iff tasks fun j q => q.Tallies (ms j) (bs j)).1 hms
    refine ⟨bs, Function.update ms i (t + ms i), results, m', fun j => ?_, hperm, ha, ?_⟩
    · by_cases hj : j = i
      · subst hj
        rw [Function.update_self]
        exact ih hp
      · rw [Function.update_of_ne hj]
        exact hothers j hj
    · rw [sum_update_add, add_assoc]
  | @gather _ _ width count tasks next bs results hdone hperm =>
    intro m a hm
    refine ⟨bs, fun _ => 0, results, m, fun i => ?_, hperm, hm, by simp⟩
    rw [hdone i]
    exact ⟨rfl, rfl⟩

/-- **A run is after what happened in it**, and the order does not matter. -/
theorem Ends.tallies {p : Program α} {t : Trace} {a : α} (h : p.Ends t a) : p.Tallies t a := by
  rw [Ends] at h
  generalize hq : Program.done a = q at h
  induction h with
  | refl =>
    subst hq
    exact ⟨rfl, rfl⟩
  | step hs _ ih =>
    rw [← Multiset.coe_add]
    exact hs.tallies (ih hq)

/-! ## Putting programs together -/

variable {m : Multiset Event}

/-- What happens in two programs one after the other is what happens in each. -/
theorem Tallies.of_bind {p : Program α} {f : α → Program β} {b : β}
    (h : (p.bind f).Tallies m b) :
    ∃ a m₁ m₂, p.Tallies m₁ a ∧ (f a).Tallies m₂ b ∧ m = m₁ + m₂ := by
  induction p generalizing m with
  | done a => exact ⟨a, 0, m, ⟨rfl, rfl⟩, h, (zero_add m).symm⟩
  | ask c next ih | lookUp c next ih =>
    obtain ⟨reply, m', rfl, h⟩ := h
    obtain ⟨a, m₁, m₂, ha, hb, rfl⟩ := ih reply h
    exact ⟨a, _, m₂, ⟨reply, m₁, rfl, ha⟩, hb, (Multiset.cons_add _ m₁ m₂).symm⟩
  | both p q next _ _ ih =>
    obtain ⟨x, y, n₁, n₂, n₃, hx, hy, h, rfl⟩ := h
    obtain ⟨a, m₁, m₂, ha, hb, rfl⟩ := ih x y h
    exact ⟨a, n₁ + n₂ + m₁, m₂, ⟨x, y, n₁, n₂, m₁, hx, hy, ha, rfl⟩, hb, (add_assoc ..).symm⟩
  | pool width count tasks next _ ih =>
    obtain ⟨bs, ms, results, m', hms, hperm, h, rfl⟩ := h
    obtain ⟨a, m₁, m₂, ha, hb, rfl⟩ := ih results h
    exact ⟨a, ∑ i, ms i + m₁, m₂, ⟨bs, ms, results, m₁, hms, hperm, ha, rfl⟩, hb,
      (add_assoc ..).symm⟩

theorem Tallies.of_call {c : Call} {reply : Reply c} (h : (call c).Tallies m reply) :
    m = {.called c reply} := by
  obtain ⟨_, _, rfl, rfl, rfl⟩ := h
  rfl

theorem Tallies.of_find {contact : String} {reply : Reply (.users contact)}
    (h : (find contact).Tallies m reply) : m = {.lookedUp contact reply} := by
  obtain ⟨_, _, rfl, rfl, rfl⟩ := h
  rfl

/-- The same for two programs side by side. -/
theorem Tallies.of_pair {p : Program α} {q : Program β} {a : α} {b : β}
    (h : (pair p q).Tallies m (a, b)) :
    ∃ m₁ m₂, p.Tallies m₁ a ∧ q.Tallies m₂ b ∧ m = m₁ + m₂ := by
  obtain ⟨a', b', m₁, m₂, _, ha, hb, ⟨rfl, heq⟩, rfl⟩ := h
  obtain ⟨rfl, rfl⟩ := Prod.mk.inj heq
  exact ⟨m₁, m₂, ha, hb, add_zero _⟩

/-- In a pool happens what happens in its tasks, and its results are those of the tasks. -/
theorem Tallies.of_forAll {width : Nat} {as : List α} {task : α → Program β} {bs : List β}
    (h : (forAll width as task).Tallies m bs) :
    ∃ parts : List (Multiset Event × β),
      List.Forall₂ (fun a part => (task a).Tallies part.1 part.2) as parts ∧
        bs.Perm (parts.map Prod.snd) ∧ m = (parts.map Prod.fst).sum := by
  obtain ⟨f, ms, results, _, hms, hperm, ⟨rfl, rfl⟩, rfl⟩ := h
  refine ⟨List.ofFn fun i => (ms i, f i), ?_, ?_, ?_⟩
  · rw [List.forall₂_iff_get]
    refine ⟨by simp, fun i hi hi' => ?_⟩
    simpa using hms ⟨i, hi⟩
  · rwa [List.map_ofFn]
  · rw [List.map_ofFn, List.sum_ofFn, add_zero]
    rfl

/-- Two calls at the same time are made in one order or the other. -/
theorem Ends.of_pair_call {c d : Call} {t : Trace} {x : Reply c} {y : Reply d}
    (h : (pair (call c) (call d)).Ends t (x, y)) :
    t = [.called c x, .called d y] ∨ t = [.called d y, .called c x] := by
  obtain ⟨m₁, m₂, hx, hy, ht⟩ := h.tallies.of_pair
  obtain rfl := hx.of_call
  obtain rfl := hy.of_call
  have hperm : t.Perm [.called c x, .called d y] := Multiset.coe_eq_coe.1 ht
  obtain ⟨e, rest, rfl⟩ := List.exists_cons_of_length_eq_add_one hperm.length_eq
  rcases List.mem_pair.1 (hperm.subset (List.mem_cons_self ..)) with rfl | rfl
  · left
    rw [List.perm_singleton.1 ((List.perm_cons _).1 hperm)]
  · right
    have hswap := hperm.trans (List.Perm.swap ..)
    rw [List.perm_singleton.1 ((List.perm_cons _).1 hswap)]

/-- Two calls are made in one order or the other, with these replies. -/
inductive Session.AskBoth (forge : Forge σ) (c d : Call) (s : Session σ) (x : Reply c)
    (y : Reply d) (s' : Session σ) : Prop where
  /-- in this order -/
  | inOrder {mid : Session σ} : s.ask forge c = (x, mid) → mid.ask forge d = (y, s') →
      AskBoth forge c d s x y s'
  /-- in the other order -/
  | swapped {mid : Session σ} : s.ask forge d = (y, mid) → mid.ask forge c = (x, s') →
      AskBoth forge c d s x y s'

/-- Two calls side by side may be made in either order. -/
theorem Session.AskBoth.calls_perm {forge : Forge σ} {c d : Call} {x : Reply c} {y : Reply d}
    {s s' : Session σ} (h : s.AskBoth forge c d x y s') :
    ∃ both, both.Perm [c, d] ∧ s'.calls = s.calls ++ both := by
  rcases h with ⟨hc, hd⟩ | ⟨hd, hc⟩
  · refine ⟨[c, d], .refl _, ?_⟩
    rw [Session.calls_ask hd, Session.calls_ask hc, List.append_assoc, List.singleton_append]
  · refine ⟨[d, c], .swap .., ?_⟩
    rw [Session.calls_ask hc, Session.calls_ask hd, List.append_assoc, List.singleton_append]

/-- Every run of two calls side by side makes both. -/
theorem RunsTo.of_pair_call {forge : Forge σ} {c d : Call} {t : Trace} {x : Reply c} {y : Reply d}
    {s s' : Session σ} (h : RunsTo forge s (pair (call c) (call d)) t (x, y) s') :
    s.AskBoth forge c d x y s' := by
  have hhistory := h.history
  rcases h.ends.of_pair_call with rfl | rfl
  · cases hhistory with
    | cons hfirst hrest =>
      cases hrest with
      | cons hsecond hnil =>
        cases hnil
        exact .inOrder hfirst hsecond
  · cases hhistory with
    | cons hfirst hrest =>
      cases hrest with
      | cons hsecond hnil =>
        cases hnil
        exact .swapped hfirst hsecond

end Program

/-! ## The calls that reach a forge -/

/-- The call that an event is. -/
def Event.call? : Event → Option Call
  | .called c _ => some c
  | .lookedUp .. => none

/-- The contact that is looked up in an event. -/
def Event.contact? : Event → Option String
  | .called .. => none
  | .lookedUp contact _ => some contact

/-- The contacts that are looked up in some events, each once. -/
def contacts (m : Multiset Event) : Finset String :=
  (m.filterMap Event.contact?).toFinset

/-- The calls that reach a forge in a run that begins knowing nothing: those in its events, and a
search for each contact that is looked up. -/
def calls (m : Multiset Event) : Multiset Call :=
  m.filterMap Event.call? + (contacts m).val.map .users

theorem contacts_called (c : Call) (reply : Reply c) (m : Multiset Event) :
    contacts (.called c reply ::ₘ m) = contacts m := by
  rw [contacts, Multiset.filterMap_cons_none _ _ rfl, contacts]

theorem contacts_lookedUp (contact : String) (reply : Reply (.users contact))
    (m : Multiset Event) :
    contacts (.lookedUp contact reply ::ₘ m) = insert contact (contacts m) := by
  rw [contacts, Multiset.filterMap_cons_some Event.contact? _ _ rfl, Multiset.toFinset_cons,
    contacts]

/-- The contacts are those that were looked up. -/
theorem mem_contacts {m : Multiset Event} {contact : String} :
    contact ∈ contacts m ↔ ∃ reply, .lookedUp contact reply ∈ m := by
  rw [contacts, Multiset.mem_toFinset, Multiset.mem_filterMap]
  constructor
  · rintro ⟨_ | ⟨other, reply⟩, he, heq⟩
    · cases heq
    · obtain rfl := Option.some.inj heq
      exact ⟨reply, he⟩
  · rintro ⟨reply, hmem⟩
    exact ⟨_, hmem, rfl⟩

/-- What some events ask of a forge: calls, and look-ups of contacts, among which a contact may be
listed more than once. -/
structure Footprint (m : Multiset Event) (made : List Call) (found : List String) : Prop where
  /-- these are the calls -/
  made_eq : m.filterMap Event.call? = made
  /-- these are the contacts -/
  contacts_eq : contacts m = found.toFinset

namespace Footprint

variable {m m' : Multiset Event} {made made' : List Call} {found found' : List String}

theorem zero : Footprint 0 [] [] :=
  ⟨rfl, rfl⟩

theorem called (c : Call) (reply : Reply c) : Footprint {.called c reply} [c] [] :=
  ⟨rfl, rfl⟩

theorem lookedUp (contact : String) (reply : Reply (.users contact)) :
    Footprint {.lookedUp contact reply} [] [contact] :=
  ⟨rfl, rfl⟩

/-- What two programs leave together is what each of them leaves. -/
theorem add (h : Footprint m made found) (h' : Footprint m' made' found') :
    Footprint (m + m') (made ++ made') (found ++ found') where
  made_eq := by rw [Multiset.filterMap_add, h.made_eq, h'.made_eq, Multiset.coe_add]
  contacts_eq := by
    rw [List.toFinset_append, ← h.contacts_eq, ← h'.contacts_eq, contacts,
      Multiset.filterMap_add, Multiset.toFinset_add, contacts, contacts]

/-- A call that happened was to be made. -/
theorem mem_made (h : Footprint m made found) {c : Call} {reply : Reply c}
    (hmem : .called c reply ∈ m) : c ∈ made := by
  rw [← Multiset.mem_coe, ← h.made_eq, Multiset.mem_filterMap]
  exact ⟨_, hmem, rfl⟩

/-- A contact that was looked up was to be found. -/
theorem mem_found (h : Footprint m made found) {contact : String}
    {reply : Reply (.users contact)} (hmem : .lookedUp contact reply ∈ m) : contact ∈ found := by
  rw [← List.mem_toFinset, ← h.contacts_eq, mem_contacts]
  exact ⟨reply, hmem⟩

/-- A pool looks up what its tasks do, and makes no calls if they make none. -/
theorem forAll {width : Nat} {as : List α} {task : α → Program β} {bs : List β}
    {found : α → List String} (h : (Program.forAll width as task).Tallies m bs)
    (htask : ∀ a m b, (task a).Tallies m b → Footprint m [] (found a)) :
    Footprint m [] (as.flatMap found) := by
  obtain ⟨parts, hparts, -, rfl⟩ := h.of_forAll
  clear h
  induction hparts with
  | nil => exact .zero
  | cons ha _ ih => exact (htask _ _ _ ha).add ih

/-- However often a contact is looked up, it is searched for once. -/
theorem calls_eq (h : Footprint m made found) :
    calls m = (made ++ found.dedup.map .users : List Call) := by
  rw [calls, h.made_eq, h.contacts_eq, List.toFinset_val, Multiset.map_coe, Multiset.coe_add]

end Footprint

/-- The contacts to which a session knows the reply. -/
def Program.Session.known (s : Program.Session σ) : Finset String :=
  (s.directory.map Prod.fst).toFinset

variable {forge : Forge σ}

/-- A call goes to the forge and says nothing of any contact. -/
theorem Event.Happens.of_called {s s' : Program.Session σ} {c : Call} {reply : Reply c}
    (h : (Event.called c reply).Happens forge s s') :
    s'.log = c :: s.log ∧ s'.known = s.known := by
  obtain ⟨-, rfl⟩ := Prod.mk.inj h
  exact ⟨rfl, rfl⟩

/-- A look-up goes to the forge if its contact is not known, which it is from then on. -/
theorem Event.Happens.of_lookedUp {s s' : Program.Session σ} {contact : String}
    {reply : Reply (.users contact)} (h : (Event.lookedUp contact reply).Happens forge s s') :
    contact ∈ s.known ∧ s' = s ∨
      contact ∉ s.known ∧ s'.log = .users contact :: s.log ∧
        s'.known = insert contact s.known := by
  simp only [Happens, Program.Session.lookUp] at h
  split at h
  · next key known hfind =>
    obtain ⟨-, rfl⟩ := Prod.mk.inj h
    obtain rfl : key = contact := by simpa using List.find?_some hfind
    have hmem := List.mem_map_of_mem (f := Prod.fst) (List.mem_of_find?_eq_some hfind)
    exact .inl ⟨List.mem_toFinset.2 hmem, rfl⟩
  · next hfind =>
    obtain ⟨-, rfl⟩ := Prod.mk.inj h
    have hnew : contact ∉ s.directory.map Prod.fst := by
      rw [List.mem_map]
      rintro ⟨entry, hentry, rfl⟩
      simpa using List.find?_eq_none.1 hfind entry hentry
    refine .inr ⟨fun hmem => hnew (List.mem_toFinset.1 hmem), rfl, ?_⟩
    exact List.toFinset_cons ..

/-- What reaches the forge in a part of a run: its calls, and searches for contacts that are not
known before. -/
theorem History.log_eq {s s' : Program.Session σ} {t : Trace} (h : History forge s t s') :
    (s'.log : Multiset Call) = (s.log : Multiset Call) +
      (Multiset.filterMap Event.call? t + (contacts t \ s.known).val.map .users) := by
  induction h with
  | nil => simp [contacts]
  | @cons s s₁ s' e t he _ ih =>
    rw [ih, ← Multiset.cons_coe]
    cases e with
    | called c reply =>
      obtain ⟨hlog, hknown⟩ := he.of_called
      rw [hlog, hknown, contacts_called, Multiset.filterMap_cons_some Event.call? _ _ rfl,
        ← Multiset.cons_coe, Multiset.cons_add, Multiset.cons_add, Multiset.add_cons]
    | lookedUp contact reply =>
      rw [contacts_lookedUp, Multiset.filterMap_cons_none _ _ rfl]
      rcases he.of_lookedUp with ⟨hold, rfl⟩ | ⟨hnew, hlog, hknown⟩
      · rw [Finset.insert_sdiff_of_mem _ hold]
      · -- this is the one look-up of the contact that is a search
        have hsplit : insert contact (contacts t) \ s.known =
            insert contact (contacts t \ insert contact s.known) := by
          ext other
          simp only [Finset.mem_sdiff, Finset.mem_insert]
          by_cases hother : other = contact
          · simp [hother, hnew]
          · simp [hother]
        have hfresh : contact ∉ contacts t \ insert contact s.known := by simp
        rw [hsplit, Finset.insert_val_of_notMem hfresh, Multiset.map_cons, hlog, hknown,
          ← Multiset.cons_coe, Multiset.cons_add, Multiset.add_cons, Multiset.add_cons]

/-- **What reaches the forge in a run** that begins knowing nothing is settled by what happens in
it, in whatever order. -/
theorem Program.RunsTo.calls_eq {p : Program α} {state : σ} {t : Trace} {a : α}
    {s' : Program.Session σ} (h : Program.RunsTo forge (.start state) p t a s') :
    (s'.calls : Multiset Call) = calls t := by
  have hlog := h.history.log_eq
  simpa [Program.Session.calls, Program.Session.start, Program.Session.known, calls] using hlog

end ProposalGate.Forge
