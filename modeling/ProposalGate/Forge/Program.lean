import ProposalGate.Forge.Call

/-!
# Programs that call a forge

A program is a tree of calls that says what is done with every reply, and what may be done at the
same time: two programs side by side, or a pool of tasks of which a limited number is under way.
It does not say in which order calls that are made at the same time reach the forge; that is up to
whoever runs it.

`lookUp` is a search of the user directory whose reply may be one already given for the same
contact. `Program.run` makes the calls one after the other and remembers look-ups; `Program.eval`
is the result where the forge's replies depend on the call alone.
-/

namespace ProposalGate.Forge

/-- A program that calls a forge and ends in a result. -/
inductive Program : Type → Type 1 where
  /-- the result is known -/
  | done {α : Type} (result : α) : Program α
  /-- a call -/
  | ask {α : Type} (c : Call) (next : Reply c → Program α) : Program α
  /-- a search of the user directory that is made once for each contact -/
  | lookUp {α : Type} (contact : String) (next : Reply (.users contact) → Program α) : Program α
  /-- two programs at the same time -/
  | both {α β γ : Type} (first : Program β) (second : Program γ) (next : β → γ → Program α) :
      Program α
  /-- `count` tasks, at most `width` of them at the same time -/
  | pool {α β : Type} (width count : Nat) (tasks : Fin count → Program β)
      (next : List β → Program α) : Program α

namespace Program

/-- Goes on with the result of a program. -/
def bind {α β : Type} (p : Program α) (f : α → Program β) : Program β :=
  match p with
  | .done a => f a
  | .ask c next => .ask c fun r => (next r).bind f
  | .lookUp contact next => .lookUp contact fun r => (next r).bind f
  | .both p q next => .both p q fun b c => (next b c).bind f
  | .pool width count tasks next => .pool width count tasks fun bs => (next bs).bind f

instance : Monad Program where
  pure := done
  bind := bind

/-- A single call. -/
def call (c : Call) : Program (Reply c) :=
  .ask c .done

/-- A single look-up. -/
def find (contact : String) : Program (Reply (.users contact)) :=
  .lookUp contact .done

/-- Two programs at the same time, for both results. -/
def pair {α β : Type} (p : Program α) (q : Program β) : Program (α × β) :=
  .both p q fun a b => .done (a, b)

/-- A task for each element of a list, at most `width` at the same time; the results are in the
order of the list. -/
def forAll {α β : Type} (width : Nat) (as : List α) (task : α → Program β) : Program (List β) :=
  .pool width as.length (fun i => task as[i]) .done

/-! ## Running -/

/-- The replies to earlier look-ups. -/
abbrev Directory := List (String × Except Error (List String))

/-- A run in progress. -/
structure Session (σ : Type) where
  /-- the state of the forge -/
  state : σ
  /-- the replies to earlier look-ups -/
  directory : Directory
  /-- the calls made so far, last one first -/
  log : List Call

namespace Session

/-- A run that begins with a forge in a given state. -/
def start {σ : Type} (state : σ) : Session σ := ⟨state, [], []⟩

/-- The calls made so far, in order. -/
def calls {σ : Type} (s : Session σ) : List Call := s.log.reverse

/-- Makes a call. -/
def ask {σ : Type} (forge : Forge σ) (c : Call) (s : Session σ) : Reply c × Session σ :=
  let (reply, state) := forge c s.state
  (reply, { s with state := state, log := c :: s.log })

/-- Looks a contact up: in the directory, or else with a call whose reply is remembered. -/
def lookUp {σ : Type} (forge : Forge σ) (contact : String) (s : Session σ) :
    Reply (.users contact) × Session σ :=
  match s.directory.find? (·.1 = contact) with
  | some (_, reply) => (reply, s)
  | none =>
    let (reply, s) := s.ask forge (.users contact)
    (reply, { s with directory := (contact, reply) :: s.directory })

/-- Runs a number of tasks one after the other. -/
def inTurn {σ β : Type} :
    (count : Nat) → (Fin count → Session σ → β × Session σ) → Session σ → List β × Session σ
  | 0, _, s => ([], s)
  | count + 1, tasks, s =>
    let (b, s) := tasks 0 s
    let (bs, s) := inTurn count (fun i => tasks i.succ) s
    (b :: bs, s)

end Session

/-- Runs a program with one call at a time. -/
def run {σ : Type} (forge : Forge σ) {α : Type} : Program α → Session σ → α × Session σ
  | .done a, s => (a, s)
  | .ask c next, s =>
    let (reply, s) := s.ask forge c
    (next reply).run forge s
  | .lookUp contact next, s =>
    let (reply, s) := s.lookUp forge contact
    (next reply).run forge s
  | .both p q next, s =>
    let (b, s) := p.run forge s
    let (c, s) := q.run forge s
    (next b c).run forge s
  | .pool _ count tasks next, s =>
    let (bs, s) := Session.inTurn count (fun i => (tasks i).run forge) s
    (next bs).run forge s

/-- The result of a program where the reply to a call depends on the call alone. -/
def eval (replies : (c : Call) → Reply c) {α : Type} : Program α → α
  | .done a => a
  | .ask c next => (next (replies c)).eval replies
  | .lookUp contact next => (next (replies (.users contact))).eval replies
  | .both p q next => (next (p.eval replies) (q.eval replies)).eval replies
  | .pool _ count tasks next =>
    (next (List.ofFn fun i : Fin count => (tasks i).eval replies)).eval replies

end Program

end ProposalGate.Forge
