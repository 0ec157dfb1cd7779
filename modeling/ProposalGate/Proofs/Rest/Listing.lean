import ProposalGate.Rest.Listing

/-!
# What a listing reads

A listing is read from a chain of pages: each is a success whose items can be read, each but the
last leads to the next, and the last leads nowhere (`Listing.Reads`). Over a wire without redirects
a listing is complete exactly if the replies it uses up are those of such a chain
(`Listing.collect_eq_ok_iff`), so nothing that is left out of it, and nothing that fails, is ever
passed over in silence.
-/

namespace ProposalGate.Rest

/-! ## Wires without redirects -/

/-- A reply that leads nowhere else. -/
def Reply.IsDirect : Reply → Prop
  | .answered a => Status.isRedirect a.status = false
  | .refused => True

/-- Whether a reply is an answer. -/
def Reply.isAnswered : Reply → Bool
  | .answered _ => true
  | .refused => false

namespace Wire

variable {r : Request} {w w' : Wire} {a : Response} {hops : Nat}

/-- No reply to come leads anywhere else. -/
def Direct (w : Wire) : Prop :=
  ∀ reply ∈ w.replies, reply.IsDirect

theorem isRedirect_of_send (hw : w.Direct) (h : w.send r = (.ok a, w')) :
    Status.isRedirect a.status = false := by
  rw [send] at h
  split at h
  · next a' rest hreplies =>
    obtain ⟨heq, -⟩ := Prod.mk.inj h
    obtain rfl := Except.ok.inj heq
    exact hw (.answered a') (by simp [hreplies])
  · cases h
  · obtain ⟨heq, -⟩ := Prod.mk.inj h
    obtain rfl := Except.ok.inj heq
    rfl

/-- Without redirects there is nothing to follow. -/
theorem exchange_eq_send {addressing : Addressing} (hw : w.Direct) :
    w.exchange addressing r = w.send r := by
  rw [exchange]
  split
  · rfl
  · rcases hsend : w.send r with ⟨why | a, w'⟩
    · rw [follow, hsend]
    · have hredirect : r.redirect? addressing a = none := by
        simp [Request.redirect?, isRedirect_of_send hw hsend]
      rw [follow, hsend]
      simp only [hredirect]

end Wire

/-! ## Pages -/

variable {α : Type}

/-- A page of a listing. -/
structure Page (α : Type) where
  /-- what was asked -/
  request : Request
  /-- what was answered -/
  answer : Response
  /-- the items on it -/
  items : List α

/-- The replies that some pages are. -/
def Page.answered (pages : List (Page α)) : List Reply :=
  pages.map fun p => .answered p.answer

/-- The requests for some pages, last one first. -/
def Page.asked (pages : List (Page α)) : List Request :=
  (pages.map Page.request).reverse

namespace Listing

variable {l : Listing α} {r : Request} {w w' : Wire} {items : List α} {pages : List (Page α)}

/-- A listing reads some pages, beginning with the one that a request asks for. -/
inductive Reads (l : Listing α) : Request → List (Page α) → Prop where
  /-- the last page leads nowhere -/
  | last {p : Page α} : p.answer.isSuccess = true → l.items p.answer = .ok p.items →
      l.next p.answer = none → Reads l p.request [p]
  /-- a page leads to the next -/
  | more {p : Page α} {next : Request} {pages : List (Page α)} : p.answer.isSuccess = true →
      l.items p.answer = .ok p.items → l.next p.answer = some (.ok next) → Reads l next pages →
      Reads l p.request (p :: pages)

/-- Every page is a success that can be read. -/
theorem Reads.page (h : l.Reads r pages) {p : Page α} (hp : p ∈ pages) :
    p.answer.isSuccess = true ∧ l.items p.answer = .ok p.items := by
  induction h with
  | last hsuccess hitems =>
    obtain rfl := List.mem_singleton.1 hp
    exact ⟨hsuccess, hitems⟩
  | more hsuccess hitems _ _ ih =>
    rcases List.mem_cons.1 hp with rfl | hp
    · exact ⟨hsuccess, hitems⟩
    · exact ih hp

/-- How a listing goes over a wire without redirects. -/
inductive Collects (l : Listing α) : Request → Wire → Except Error (List α) → Wire → Prop where
  /-- there is no connection -/
  | unsent {r : Request} {w : Wire} {rest : List Reply} {e : Error} :
      w.replies = .refused :: rest → Collects l r w (.error e) ⟨rest, w.sent⟩
  /-- no reply is left -/
  | declined {r : Request} {w : Wire} {e : Error} :
      w.replies = [] → Collects l r w (.error e) ⟨[], r :: w.sent⟩
  /-- the page is no success, cannot be read, or leads to what is no address -/
  | failed {r : Request} {w : Wire} {a : Response} {rest : List Reply} {e : Error} :
      w.replies = .answered a :: rest → Collects l r w (.error e) ⟨rest, r :: w.sent⟩
  /-- the page is the last -/
  | last {r : Request} {w : Wire} {a : Response} {rest : List Reply} {items : List α} :
      w.replies = .answered a :: rest → a.isSuccess = true → l.items a = .ok items →
      l.next a = none → Collects l r w (.ok items) ⟨rest, r :: w.sent⟩
  /-- the page leads to the next -/
  | more {r next : Request} {w w' : Wire} {a : Response} {rest : List Reply} {items : List α}
      {result : Except Error (List α)} :
      w.replies = .answered a :: rest → a.isSuccess = true → l.items a = .ok items →
      l.next a = some (.ok next) → Collects l next ⟨rest, r :: w.sent⟩ result w' →
      Collects l r w (result.map (items ++ ·)) w'

/-- The equation of a listing, without what its termination needs. -/
theorem collect_eq (l : Listing α) (r : Request) (w : Wire) :
    l.collect r w =
      match w.exchange l.addressing r with
      | (.error why, w') => (.error (l.unanswered why), w')
      | (.ok a, w') =>
        if a.isSuccess = true then
          match l.items a, l.next a with
          | .error e, _ => (.error e, w')
          | .ok items, none => (.ok items, w')
          | .ok _, some (.error e) => (.error e, w')
          | .ok items, some (.ok next) =>
            ((l.collect next w').1.map (items ++ ·), (l.collect next w').2)
        else (.error (l.refused a), w') := by
  rw [collect]
  split
  · next hexchange => rw [hexchange]
  · next a w' hexchange =>
    rw [hexchange]
    dsimp only
    split
    · rcases l.items a with e | items
      · rfl
      · rcases l.next a with _ | (e | next)
        · rfl
        · rfl
        · dsimp only
          rcases l.collect next w' with ⟨e | more, w''⟩ <;> rfl
    · rfl

/-- **This is how a listing goes.** -/
theorem collects_collect (l : Listing α) (r : Request) (w : Wire) (hw : w.Direct) :
    l.Collects r w (l.collect r w).1 (l.collect r w).2 := by
  -- the induction is on the replies that are left
  obtain ⟨replies, sent⟩ := w
  induction replies generalizing r sent with
  | nil =>
    rw [collect_eq, Wire.exchange_eq_send hw]
    exact .declined rfl
  | cons reply rest ih =>
    have hrest : Wire.Direct ⟨rest, r :: sent⟩ := fun other hother =>
      hw other (List.mem_cons_of_mem _ hother)
    rw [collect_eq, Wire.exchange_eq_send hw]
    rcases reply with a | _
    · simp only [Wire.send]
      cases hsuccess : a.isSuccess with
      | false => exact .failed rfl
      | true =>
        rcases hitems : l.items a with e | items
        · exact .failed rfl
        · rcases hnext : l.next a with _ | (e | next)
          · exact .last rfl hsuccess hitems hnext
          · exact .failed rfl
          · exact .more rfl hsuccess hitems hnext (ih next (r :: sent) hrest)
    · exact .unsent rfl

variable {result : Except Error (List α)}

/-- A complete listing has read a chain of pages, and nothing else. -/
theorem Collects.reads (h : l.Collects r w result w') (hresult : result = .ok items) :
    ∃ pages, l.Reads r pages ∧ w.replies = Page.answered pages ++ w'.replies ∧
      w'.sent = Page.asked pages ++ w.sent ∧ items = pages.flatMap Page.items := by
  induction h generalizing items with
  | unsent | declined | failed => cases hresult
  | @last r w a rest items' hreplies hsuccess hitems hnext =>
    obtain rfl := Except.ok.inj hresult
    exact ⟨_, .last (p := ⟨r, a, items'⟩) hsuccess hitems hnext, hreplies, rfl,
      (List.append_nil items').symm⟩
  | @more r next w w' a rest items' result hreplies hsuccess hitems hnext _ ih =>
    rcases result with e | more
    · cases hresult
    · obtain rfl := Except.ok.inj hresult
      obtain ⟨pages, hreads, hrest, hsent, rfl⟩ := ih rfl
      refine ⟨_, .more (p := ⟨r, a, items'⟩) hsuccess hitems hnext hreads, ?_, ?_, rfl⟩
      · rw [hreplies]
        exact congrArg (Reply.answered a :: ·) hrest
      · rw [hsent]
        simp [Page.asked]

/-- A chain of pages is read to its end. -/
theorem Reads.collect (h : l.Reads r pages) {rest : List Reply} (hw : w.Direct)
    (hreplies : w.replies = Page.answered pages ++ rest) :
    l.collect r w = (.ok (pages.flatMap Page.items), ⟨rest, Page.asked pages ++ w.sent⟩) := by
  induction h generalizing w with
  | @last p hsuccess hitems hnext =>
    have hreplies : w.replies = .answered p.answer :: rest := hreplies
    rw [collect_eq, Wire.exchange_eq_send hw, Wire.send, hreplies]
    simp [hsuccess, hitems, hnext, Page.asked]
  | @more p next pages hsuccess hitems hnext _ ih =>
    have hreplies : w.replies = .answered p.answer :: (Page.answered pages ++ rest) := hreplies
    have hrest : Wire.Direct ⟨Page.answered pages ++ rest, p.request :: w.sent⟩ := fun reply hmem =>
      hw reply (hreplies ▸ List.mem_cons_of_mem _ hmem)
    rw [collect_eq, Wire.exchange_eq_send hw, Wire.send, hreplies]
    simp [hsuccess, hitems, hnext, ih hrest rfl, Page.asked, Except.map]

/-- **A listing is complete exactly if it has read a chain of pages**, of which it then has all
items in order. -/
theorem collect_eq_ok_iff (hw : w.Direct) :
    l.collect r w = (.ok items, w') ↔
      ∃ pages, l.Reads r pages ∧ w.replies = Page.answered pages ++ w'.replies ∧
        w'.sent = Page.asked pages ++ w.sent ∧ items = pages.flatMap Page.items := by
  constructor
  · intro h
    have hcollects := collects_collect l r w hw
    rw [h] at hcollects
    exact hcollects.reads rfl
  · rintro ⟨pages, hreads, hreplies, hsent, rfl⟩
    rw [hreads.collect hw hreplies, ← hsent]

/-- Replies are used up in order. -/
theorem Collects.suffix (h : l.Collects r w result w') : w'.replies <:+ w.replies := by
  induction h with
  | unsent hreplies | failed hreplies | last hreplies =>
    rw [hreplies]
    exact List.suffix_cons ..
  | declined => exact List.nil_suffix
  | more hreplies _ _ _ _ ih =>
    rw [hreplies]
    exact ih.trans (List.suffix_cons ..)

/-- At most one request is sent that is not answered. -/
theorem Collects.sent_le (h : l.Collects r w result w') :
    w'.sent.length + w'.replies.countP Reply.isAnswered ≤
      w.sent.length + w.replies.countP Reply.isAnswered + 1 := by
  induction h with
  | unsent hreplies =>
    simp [hreplies, Reply.isAnswered]
  | declined hreplies =>
    simp [hreplies]
  | failed hreplies | last hreplies =>
    simp only [hreplies, List.length_cons, List.countP_cons, Reply.isAnswered, ↓reduceIte]
    omega
  | more hreplies _ _ _ _ ih =>
    simp only [hreplies, List.length_cons, List.countP_cons, Reply.isAnswered, ↓reduceIte] at ih ⊢
    omega

/-- If a reply that is used up is no page, then the listing is not complete. -/
theorem Collects.error_of_mem (h : l.Collects r w result w') {consumed : List Reply}
    (hconsumed : w.replies = consumed ++ w'.replies) {reply : Reply} (hmem : reply ∈ consumed)
    (hreply : ∀ a items, reply = .answered a → a.isSuccess = true → l.items a ≠ .ok items) :
    ∃ e, result = .error e := by
  rcases result with e | items
  · exact ⟨e, rfl⟩
  · obtain ⟨pages, hreads, hreplies, -, -⟩ := h.reads rfl
    obtain rfl : consumed = Page.answered pages :=
      List.append_cancel_right (hconsumed.symm.trans hreplies)
    obtain ⟨p, hp, rfl⟩ := List.mem_map.1 hmem
    obtain ⟨hsuccess, hitems⟩ := hreads.page hp
    exact absurd hitems (hreply p.answer p.items rfl hsuccess)

end Listing

end ProposalGate.Rest
