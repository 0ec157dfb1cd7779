import ProposalGate.Proofs.Schedule.Results

/-!
# What a program may ask

`Program.AsksOnly` says that every call a program may make, and every search that its look-ups may
stand for, is among some, whatever the replies. A program that asks only some calls depends on the
replies to no others: if all that a forge may reply to them may be replied by another as well, then
every result of the program on the one is a result of it on the other (`AsksOnly.yields`).
-/

namespace ProposalGate.Forge.Program

variable {α β : Type} {calls : Call → Prop} {answers answers' : Answers}

/-- Every call that a program may make is among some. -/
def AsksOnly (calls : Call → Prop) : {α : Type} → Program α → Prop
  | _, .done _ => True
  | _, .ask c next => calls c ∧ ∀ reply, (next reply).AsksOnly calls
  | _, .lookUp contact next => calls (.users contact) ∧ ∀ reply, (next reply).AsksOnly calls
  | _, .both p q next => p.AsksOnly calls ∧ q.AsksOnly calls ∧ ∀ b c, (next b c).AsksOnly calls
  | _, .pool _ _ tasks next => (∀ i, (tasks i).AsksOnly calls) ∧ ∀ bs, (next bs).AsksOnly calls

/-- **A program depends on nothing but what it may ask.** -/
theorem AsksOnly.yields {p : Program α} (hp : p.AsksOnly calls)
    (h : ∀ c, calls c → ∀ reply, answers c reply → answers' c reply) {a : α}
    (ha : p.Yields answers a) : p.Yields answers' a := by
  induction p with
  | done b => exact ha
  | ask c next ih =>
    obtain ⟨hc, hnext⟩ := hp
    obtain ⟨reply, hreply, ha⟩ := ha
    exact ⟨reply, h c hc reply hreply, ih reply (hnext reply) ha⟩
  | lookUp contact next ih =>
    obtain ⟨hcontact, hnext⟩ := hp
    obtain ⟨reply, hreply, ha⟩ := ha
    exact ⟨reply, h _ hcontact reply hreply, ih reply (hnext reply) ha⟩
  | both p q next ihp ihq ih =>
    obtain ⟨hp, hq, hnext⟩ := hp
    obtain ⟨b, c, hb, hc, ha⟩ := ha
    exact ⟨b, c, ihp hp hb, ihq hq hc, ih b c (hnext b c) ha⟩
  | pool width count tasks next iht ih =>
    obtain ⟨htasks, hnext⟩ := hp
    obtain ⟨bs, hbs, results, hperm, ha⟩ := ha
    exact ⟨bs, fun i => iht i (htasks i) (hbs i), results, hperm,
      ih results (hnext results) ha⟩

/-! ## Putting programs together -/

/-- A program asks only for what its two parts ask for. -/
theorem AsksOnly.bind {p : Program α} {f : α → Program β} (hp : p.AsksOnly calls)
    (hf : ∀ a, (f a).AsksOnly calls) : (p.bind f).AsksOnly calls := by
  induction p with
  | done a => exact hf a
  | ask c next ih => exact ⟨hp.1, fun reply => ih reply (hp.2 reply) hf⟩
  | lookUp contact next ih => exact ⟨hp.1, fun reply => ih reply (hp.2 reply) hf⟩
  | both p q next _ _ ih => exact ⟨hp.1, hp.2.1, fun b c => ih b c (hp.2.2 b c) hf⟩
  | pool width count tasks next _ ih => exact ⟨hp.1, fun bs => ih bs (hp.2 bs) hf⟩

/-- A call asks for itself and nothing else. -/
theorem AsksOnly.call {c : Call} (h : calls c) : (call c).AsksOnly calls :=
  ⟨h, fun _ => trivial⟩

/-- To look a contact up is to search for it. -/
theorem AsksOnly.find {contact : String} (h : calls (.users contact)) :
    (find contact).AsksOnly calls :=
  ⟨h, fun _ => trivial⟩

theorem AsksOnly.pair {p : Program α} {q : Program β} (hp : p.AsksOnly calls)
    (hq : q.AsksOnly calls) : (pair p q).AsksOnly calls :=
  ⟨hp, hq, fun _ _ => trivial⟩

/-- A pool asks only for what its tasks ask for. -/
theorem AsksOnly.forAll {width : Nat} {as : List α} {task : α → Program β}
    (h : ∀ a ∈ as, (task a).AsksOnly calls) : (forAll width as task).AsksOnly calls :=
  ⟨fun i => h _ (List.getElem_mem i.isLt), fun _ => trivial⟩

end ProposalGate.Forge.Program
