import ProposalGate.Rest.Wire

/-!
# Listings over many pages

A listing is read page by page: each answer has items and may lead to the next request. It is
complete or it fails; no part of it is ever handed out. Every page uses up one of the replies that
are given beforehand, which is why a listing comes to an end.
-/

namespace ProposalGate.Rest

/-- How a listing is read. -/
structure Listing (α : Type) where
  /-- how texts are taken for addresses -/
  addressing : Addressing
  /-- the items on a page -/
  items : Response → Except Error (List α)
  /-- where a page leads -/
  next : Response → Option (Except Error Request)
  /-- what it means that a page is not answered -/
  unanswered : Break → Error
  /-- what it means that a page is refused -/
  refused : Response → Error

/-- Reads a listing to its end, beginning with the page that a request asks for. -/
def Listing.collect {α : Type} (l : Listing α) (r : Request) (w : Wire) :
    Except Error (List α) × Wire :=
  match _ : w.exchange l.addressing r with
  | (.error why, w') => (.error (l.unanswered why), w')
  | (.ok a, w') =>
    if _ : a.isSuccess = true then
      match l.items a, l.next a with
      | .error e, _ => (.error e, w')
      | .ok items, none => (.ok items, w')
      | .ok _, some (.error e) => (.error e, w')
      | .ok items, some (.ok next) =>
        match l.collect next w' with
        | (.ok more, w) => (.ok (items ++ more), w)
        | (.error e, w) => (.error e, w)
    else (.error (l.refused a), w')
termination_by w.replies.length
decreasing_by
  rename_i exchanged success
  have := Wire.exchange_length_lt (r := r) (w := w) (by rw [exchanged]) success
  simpa [exchanged] using this

end ProposalGate.Rest
