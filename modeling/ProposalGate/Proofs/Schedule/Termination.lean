import Mathlib.Data.DFinsupp.WellFounded
import ProposalGate.Proofs.Schedule

/-!
# No run goes on for ever

Every reply to a call leads to a smaller tree, but there is no bound on how small: the trees branch
over all replies. So the steps of a program are counted by no number, and instead `Halts` says that
it is accessible along them. A pool is the interesting case (`Halts.pool`). Whichever task steps,
the tasks before it stay as they are, so the tasks as a whole descend in the lexicographic order.

`Program.not_endless` is the consequence for schedules: whoever picks the next step, at some point
there is none to pick. Together with the fact that a live program does not get stuck it makes a
statement about the ends of runs one about what the runs come to (`Program.Always`).
-/

namespace ProposalGate.Forge.Program

variable {α β γ : Type}

/-- A program is one step after another. -/
def Follows (p' p : Program α) : Prop :=
  ∃ t, Step p t p'

/-- However a program's steps are chosen, they come to an end. -/
def Halts (p : Program α) : Prop :=
  Acc Follows p

/-- Two programs side by side halt if both do: each step leaves one of them as it is and takes the
other one further. -/
theorem Halts.both {p : Program β} {q : Program γ} {next : β → γ → Program α} (hp : p.Halts)
    (hq : q.Halts) (hnext : ∀ b c, (next b c).Halts) : (Program.both p q next).Halts := by
  induction hp generalizing q with
  | intro p _ ihp =>
    induction hq with
    | intro q hq ihq =>
      refine .intro _ ?_
      rintro _ ⟨t, hs⟩
      cases hs with
      | first hs => exact ihp _ ⟨t, hs⟩ (.intro q hq)
      | second hs => exact ihq _ ⟨t, hs⟩
      | join => exact hnext _ _

/-- The programs that halt, ordered by what is left of them. -/
theorem wellFounded_halting :
    WellFounded fun p' p : {p : Program β // p.Halts} => Follows p'.1 p.1 := by
  refine ⟨fun ⟨p, hp⟩ => ?_⟩
  have hacc : ∀ hp' : p.Halts, Acc (fun p' p : {p : Program β // p.Halts} => Follows p'.1 p.1)
      ⟨p, hp'⟩ := by
    induction hp with
    | intro p _ ih => exact fun _ => .intro _ fun ⟨p', _⟩ h => ih p' h _
  exact hacc hp

/-- A pool halts if its tasks do. -/
theorem Halts.pool {width count : Nat} {tasks : Fin count → Program β} {next : List β → Program α}
    (htasks : ∀ i, (tasks i).Halts) (hnext : ∀ bs, (next bs).Halts) :
    (Program.pool width count tasks next).Halts := by
  have hwf : WellFounded (Pi.Lex (· < ·) fun {_ : Fin count} =>
      fun p' p : {p : Program β // p.Halts} => Follows p'.1 p.1) :=
    Pi.Lex.wellFounded _ fun _ => wellFounded_halting
  have hall : ∀ f : Fin count → {p : Program β // p.Halts},
      (Program.pool width count (fun i => (f i).1) next).Halts := by
    intro f
    induction f using hwf.induction with
    | _ f ih =>
      refine .intro _ ?_
      rintro _ ⟨t, hs⟩
      cases hs with
      | @task _ _ _ _ _ _ i p _ _ hs =>
        -- the tasks after the step, each with the proof that it halts
        have hp : p.Halts := (f i).2.inv ⟨t, hs⟩
        have hupdate : (fun j => (Function.update f i ⟨p, hp⟩ j).1) =
            Function.update (fun j => (f j).1) i p := by
          funext j
          by_cases hj : j = i
          · subst hj
            rw [Function.update_self, Function.update_self]
          · rw [Function.update_of_ne hj, Function.update_of_ne hj]
        rw [← hupdate]
        refine ih _ ⟨i, fun j hj => Function.update_of_ne (ne_of_lt hj) _ _, ?_⟩
        rw [Function.update_self]
        exact ⟨t, hs⟩
      | gather => exact hnext _
  exact hall fun i => ⟨tasks i, htasks i⟩

/-- **Every program halts.** -/
theorem halts (p : Program α) : p.Halts := by
  induction p with
  | done a =>
    refine .intro _ ?_
    rintro _ ⟨t, hs⟩
    cases hs
  | ask c next ih =>
    refine .intro _ ?_
    rintro _ ⟨t, hs⟩
    cases hs with
    | ask reply => exact ih reply
  | lookUp contact next ih =>
    refine .intro _ ?_
    rintro _ ⟨t, hs⟩
    cases hs with
    | lookUp reply => exact ih reply
  | both p q next ihp ihq ih => exact .both ihp ihq ih
  | pool width count tasks next iht ih => exact .pool iht ih

/-- **No order of the steps goes on for ever.** -/
theorem not_endless (p : Program α) :
    ¬ ∃ states : Nat → Program α, states 0 = p ∧ ∀ n, ∃ t, Step (states n) t (states (n + 1)) :=
  fun ⟨states, h⟩ =>
    (acc_iff_isEmpty_descending_chain.1 p.halts).false ⟨states, h⟩

/-- Every run of a program on a forge comes to an end, and to a good one. -/
structure Always {σ : Type} (forge : Forge σ) (p : Program α) (good : Trace → α → Prop) : Prop where
  /-- no order of the steps goes on for ever -/
  halts : ¬ ∃ states : Nat → Program α, states 0 = p ∧
    ∀ n, ∃ t, Step (states n) t (states (n + 1))
  /-- no order of the steps gets stuck -/
  ends : ∀ t p' s, Steps p t p' → ∃ t' a s', RunsTo forge s p' t' a s'
  /-- every end is good -/
  good : ∀ state t a s', RunsTo forge (.start state) p t a s' → good t a

theorem Live.always {σ : Type} {forge : Forge σ} {p : Program α} {good : Trace → α → Prop}
    (hp : p.Live) (h : ∀ state t a s', RunsTo forge (.start state) p t a s' → good t a) :
    Always forge p good :=
  ⟨not_endless p, fun _ _ s hs => hp.ends forge hs s, h⟩

end ProposalGate.Forge.Program
