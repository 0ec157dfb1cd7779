import ProposalGate.Rest.Message

/-!
# A wire

What comes over the wire to a service is given beforehand: one reply for each request, in order.
Once none is left, every request is declined. All requests that were sent are kept. The facts at
the end say that an answer that means success was always one of those given, so that whoever goes
on only after a success comes to an end.
-/

namespace ProposalGate.Rest

/-- What comes back for a request. -/
inductive Reply where
  /-- an answer -/
  | answered (a : Response)
  /-- no connection -/
  | refused

/-- A wire. -/
structure Wire where
  /-- the replies to come -/
  replies : List Reply
  /-- the requests sent so far, last one first -/
  sent : List Request

/-- The answer once no reply is left. -/
def Response.declined : Response := ⟨418, [], []⟩

namespace Wire

/-- A wire over which nothing was sent. -/
def start (replies : List Reply) : Wire := ⟨replies, []⟩

/-- The requests sent so far, in order. -/
def requests (w : Wire) : List Request := w.sent.reverse

/-- Sends a request. Without a connection nothing is sent. -/
def send (r : Request) (w : Wire) : Except Break Response × Wire :=
  match w.replies with
  | .answered a :: rest => (.ok a, ⟨rest, r :: w.sent⟩)
  | .refused :: rest => (.error (.unsent r.url.text), { w with replies := rest })
  | [] => (.ok .declined, { w with sent := r :: w.sent })

/-- Sends a request and follows redirects, at most `hops` of them. -/
def follow (addressing : Addressing) (hops : Nat) (r : Request) (w : Wire) :
    Except Break Response × Wire :=
  match w.send r with
  | (.error why, w) => (.error why, w)
  | (.ok a, w) =>
    match r.redirect? addressing a, hops with
    | none, _ => (.ok a, w)
    | some (.error why), _ => (.error why, w)
    | some (.ok _), 0 => (.error (.badRedirect r.url.text), w)
    | some (.ok next), hops + 1 => follow addressing hops next w

/-- The most redirects that are followed. -/
def hopLimit : Nat := 10

/-- Sends a request in its manner. -/
def exchange (addressing : Addressing) (r : Request) (w : Wire) : Except Break Response × Wire :=
  match r.manner with
  | .plain => w.send r
  | .versioned => w.follow addressing hopLimit r

/-! ## Successes use replies up -/

/-- Sending never adds replies. -/
theorem send_length_le (r : Request) (w : Wire) :
    (w.send r).2.replies.length ≤ w.replies.length := by
  unfold send
  split <;> simp_all

/-- A success is one of the replies given, so sending uses that one up. -/
theorem send_length_lt {r : Request} {w : Wire} {a : Response} (h : (w.send r).1 = .ok a)
    (success : a.isSuccess = true) : (w.send r).2.replies.length < w.replies.length := by
  unfold send at *
  split at h
  · simp_all
  · simp at h
  · obtain rfl : Response.declined = a := by simpa using h
    simp [Response.declined, Response.isSuccess, Status.isSuccess] at success

/-- A success at the end of redirects uses at least one reply up. -/
theorem follow_length_lt {addressing : Addressing} {hops : Nat} {r : Request} {w : Wire}
    {a : Response} (h : (w.follow addressing hops r).1 = .ok a) (success : a.isSuccess = true) :
    (w.follow addressing hops r).2.replies.length < w.replies.length := by
  fun_induction follow addressing hops r w with
  | case1 => simp at h
  | case2 hops r w a' w' sent =>
    obtain rfl : a' = a := by simpa using h
    have := send_length_lt (r := r) (w := w) (by rw [sent]) success
    simpa [sent] using this
  | case3 => simp at h
  | case4 => simp at h
  | case5 r w a' w' sent next hops _ ih =>
    have := send_length_le r w
    simp only [sent] at this
    exact Nat.lt_of_lt_of_le (ih h) this

/-- A success uses at least one reply up, whatever the manner of the request. -/
theorem exchange_length_lt {addressing : Addressing} {r : Request} {w : Wire} {a : Response}
    (h : (w.exchange addressing r).1 = .ok a) (success : a.isSuccess = true) :
    (w.exchange addressing r).2.replies.length < w.replies.length := by
  unfold exchange at *
  split at h
  · exact send_length_lt h success
  · exact follow_length_lt h success

end Wire

end ProposalGate.Rest
