import Mathlib.Data.List.Basic
import ProposalGate.Proofs.Rest.Listing
import ProposalGate.Rest.Service

/-!
# A comparison is complete or fails

The comparison of two commits is a listing over many pages. It says which files changed, so a page
that is passed over would be files that nobody judges. `Service.Chain` says what the pages of a whole
comparison are, each at the address that the link of the one before it names, and
`Service.compare_complete` that a comparison is what they list, every entry once and in order, and
otherwise an error. How a client takes a link for an address is up to it: whatever its addressing,
the pages are those that it leads to.
-/

namespace ProposalGate.Rest

/-! ## Entries -/

/-- An entry of a comparison, as the service lists it. -/
structure Entry where
  /-- the path at head -/
  path : String
  /-- the word for what happened -/
  status : String
  /-- the earlier path, if there is one -/
  previousPath : Option String
  deriving DecidableEq, Repr

/-- The changed file that an entry is; an unknown word counts as a modification. -/
def Entry.change (e : Entry) : Change :=
  ⟨e.path, e.previousPath, (ChangeStatus.ofName? e.status).getD .modified⟩

namespace Body

open Json (Value)

variable {α β : Type}

/-- An entry of a comparison. -/
def entryOf? (v : Value) : Option Entry :=
  match record? ["filename", "status", "previous_filename"] 3 v with
  | some [some path, some status, previous] => do
    let path ← path.text?
    let status ← status.text?
    let previousPath ← nullableText? (previous.getD .null)
    some ⟨path, status, previousPath⟩
  | _ => none

/-- A changed file is read as an entry, and the word is looked up afterwards. -/
theorem change?_eq (v : Value) : change? v = (entryOf? v).map Entry.change := by
  rw [change?]
  split
  · next path status previous hfields =>
    simp only [entryOf?, hfields]
    cases path.text? with
    | none => rfl
    | some path =>
      cases status.text? with
      | none => rfl
      | some status => cases nullableText? (previous.getD .null) <;> rfl
  · next hfields =>
    rw [entryOf?]
    split
    · next path status previous h => exact absurd h (hfields path status previous)
    · rfl

/-- What is made of each value once it is read can be made of them all. -/
theorem mapM_map (read : Value → Option α) (f : α → β) (vs : List Value) :
    vs.mapM (fun v => (read v).map f) = (vs.mapM read).map (List.map f) := by
  induction vs with
  | nil => rfl
  | cons v vs ih =>
    simp only [List.mapM_cons, ih]
    cases read v with
    | none => rfl
    | some a => cases vs.mapM read <;> rfl

/-- The same for the values of a list in a record. -/
theorem wrapped?_map (name : String) (read : Value → Option α) (f : α → β) (v : Value) :
    wrapped? name (fun v => (read v).map f) v = (wrapped? name read v).map (List.map f) := by
  rw [wrapped?, wrapped?]
  split
  · next items _ =>
    cases items with
    | array vs => exact mapM_map read f vs
    | _ => rfl
  · rfl
  · rfl

/-- The entries on a page of a comparison. -/
def entries? (body : List UInt8) : Option (List Entry) :=
  (Json.skim? body).bind (wrapped? "files" entryOf?)

/-- The changed files of a page are those that its entries are. -/
theorem changes?_eq (body : List UInt8) :
    changes? body = (entries? body).map (List.map Entry.change) := by
  rw [changes?, entries?, funext change?_eq]
  cases Json.skim? body with
  | none => rfl
  | some v => exact wrapped?_map "files" entryOf? Entry.change v

end Body

/-! ## Pages -/

/-- The target of the link to the next page. -/
def Response.nextLink? (a : Response) : Option String :=
  (a.header? "link").bind Link.next?

/-- A reply that is a page of a comparison: a success whose body can be read. -/
def Reply.IsPage (reply : Reply) : Prop :=
  ∃ a entries, reply = .answered a ∧ a.isSuccess = true ∧ Body.entries? a.body = some entries

/-- A page with the changed files that its entries are. -/
def Page.changes (p : Page Entry) : Page Change :=
  ⟨p.request, p.answer, p.items.map Entry.change⟩

@[simp] theorem Page.answered_changes (pages : List (Page Entry)) :
    Page.answered (pages.map Page.changes) = Page.answered pages := by
  rw [Page.answered, List.map_map]
  rfl

@[simp] theorem Page.asked_changes (pages : List (Page Entry)) :
    Page.asked (pages.map Page.changes) = Page.asked pages := by
  rw [Page.asked, List.map_map]
  rfl

theorem Page.flatMap_changes (pages : List (Page Entry)) :
    (pages.map Page.changes).flatMap Page.items =
      (pages.flatMap Page.items).map Entry.change := by
  rw [List.flatMap_map, List.map_flatMap]
  rfl

namespace Service

variable {s : Service} {errand : Errand} {url : Url} {a : Response}

/-- A body is read only of a success. -/
theorem readAs_eq_ok_iff {α : Type} {read : List UInt8 → Option α} {x : α} :
    readAs errand read a = .ok x ↔ a.isSuccess = true ∧ read a.body = some x := by
  rw [readAs]
  cases a.isSuccess with
  | false => simp
  | true => cases read a.body <;> simp

/-- The items of a successful answer are the changed files of its entries. -/
theorem comparison_items_iff {changes : List Change} (hsuccess : a.isSuccess = true) :
    (s.comparison errand).items a = .ok changes ↔
      ∃ entries, Body.entries? a.body = some entries ∧ entries.map Entry.change = changes := by
  rw [comparison, readAs_eq_ok_iff, Body.changes?_eq, Option.map_eq_some_iff]
  exact and_iff_right hsuccess

/-- A listing ends with an answer that has no link to a next page. -/
theorem comparison_next_eq_none_iff :
    (s.comparison errand).next a = none ↔ a.nextLink? = none :=
  Option.map_eq_none_iff

/-- It goes on with the address that the link's target is read as. -/
theorem comparison_next_iff {next : Request} :
    (s.comparison errand).next a = some (.ok next) ↔
      ∃ target url, a.nextLink? = some target ∧ s.addressing.read target = .ok url ∧
        s.versioned .get url none = next := by
  simp only [comparison, Response.nextLink?, Option.map_eq_some_iff]
  refine exists_congr fun target => ?_
  cases s.addressing.read target with
  | error why => simp
  | ok url => simp

/-- **The pages of a comparison**, beginning with the one at an address. Each is a success whose body
can be read, and each but the last has a link to the next. -/
inductive Chain (s : Service) : Url → List (Page Entry) → Prop where
  /-- the last page has no link to a next -/
  | last {url : Url} {a : Response} {entries : List Entry} : a.isSuccess = true →
      Body.entries? a.body = some entries → a.nextLink? = none →
      Chain s url [⟨s.versioned .get url none, a, entries⟩]
  /-- the next page is at the address that the link names -/
  | more {url next : Url} {a : Response} {entries : List Entry} {target : String}
      {pages : List (Page Entry)} : a.isSuccess = true → Body.entries? a.body = some entries →
      a.nextLink? = some target → s.addressing.read target = .ok next → Chain s next pages →
      Chain s url (⟨s.versioned .get url none, a, entries⟩ :: pages)

/-- The pages of a comparison are what its listing reads. -/
theorem Chain.reads {pages : List (Page Entry)} (h : s.Chain url pages) :
    (s.comparison errand).Reads (s.versioned .get url none) (pages.map Page.changes) := by
  induction h with
  | @last url a entries hsuccess hentries hnext =>
    exact .last (p := Page.changes ⟨s.versioned .get url none, a, entries⟩) hsuccess
      ((comparison_items_iff hsuccess).2 ⟨entries, hentries, rfl⟩)
      (comparison_next_eq_none_iff.2 hnext)
  | @more url next a entries target pages hsuccess hentries hlink hparse _ ih =>
    exact .more (p := Page.changes ⟨s.versioned .get url none, a, entries⟩) hsuccess
      ((comparison_items_iff hsuccess).2 ⟨entries, hentries, rfl⟩)
      (comparison_next_iff.2 ⟨target, next, hlink, hparse, rfl⟩) ih

/-- What the listing of a comparison reads are the pages of the comparison. -/
theorem exists_chain_of_reads {r : Request} {pages : List (Page Change)}
    (h : (s.comparison errand).Reads r pages) {url : Url} (hr : r = s.versioned .get url none) :
    ∃ entries, s.Chain url entries ∧ pages = entries.map Page.changes := by
  induction h generalizing url with
  | @last p hsuccess hitems hnext =>
    obtain ⟨request, a, changes⟩ := p
    obtain rfl : request = _ := hr
    obtain ⟨entries, hentries, rfl⟩ := (comparison_items_iff hsuccess).1 hitems
    exact ⟨_, .last hsuccess hentries (comparison_next_eq_none_iff.1 hnext), rfl⟩
  | @more p next pages hsuccess hitems hnext _ ih =>
    obtain ⟨request, a, changes⟩ := p
    obtain rfl : request = _ := hr
    obtain ⟨entries, hentries, rfl⟩ := (comparison_items_iff hsuccess).1 hitems
    obtain ⟨target, url', hlink, hparse, rfl⟩ := comparison_next_iff.1 hnext
    obtain ⟨rest, hrest, rfl⟩ := ih rfl
    exact ⟨_, .more hsuccess hentries hlink hparse hrest, rfl⟩

/-- The address of the first page of a comparison. -/
def comparisonUrl (s : Service) (base head : String) : Except Break Url :=
  (s.inRepository s!"compare/{base}...{head}").map
    (·.withParameter "per_page" (toString pageSize))

/-- A comparison is the listing from its first page on, if that has an address. -/
theorem compare_eq (s : Service) (base head : String) (w : Wire) :
    s.compare base head w =
      match s.comparisonUrl base head with
      | .error why => (.error (.service (.unanswered (.compare base head) why)), w)
      | .ok url =>
        (s.comparison (.compare base head)).collect (s.versioned .get url none) w := by
  rw [compare, comparisonUrl]
  cases s.inRepository s!"compare/{base}...{head}" <;> rfl

variable {base head : String} {w w' : Wire} {files : List Change}

/-- **A comparison is complete exactly if the replies it uses up are the pages of it**, and is then
the concatenation of their entries. -/
theorem compare_eq_ok_iff (hw : w.Direct) :
    s.compare base head w = (.ok files, w') ↔
      ∃ url pages, s.comparisonUrl base head = .ok url ∧ s.Chain url pages ∧
        w.replies = Page.answered pages ++ w'.replies ∧ w'.sent = Page.asked pages ++ w.sent ∧
        files = (pages.flatMap Page.items).map Entry.change := by
  rw [compare_eq]
  cases s.comparisonUrl base head with
  | error why => simp
  | ok url =>
    simp only [Listing.collect_eq_ok_iff hw, Except.ok.injEq, exists_and_left, exists_eq_left']
    constructor
    · rintro ⟨pages, hreads, hreplies, hsent, rfl⟩
      obtain ⟨entries, hchain, rfl⟩ := exists_chain_of_reads hreads rfl
      rw [Page.answered_changes] at hreplies
      rw [Page.asked_changes] at hsent
      exact ⟨entries, hchain, hreplies, hsent, Page.flatMap_changes entries⟩
    · rintro ⟨entries, hchain, hreplies, hsent, rfl⟩
      refine ⟨_, hchain.reads, ?_, ?_, (Page.flatMap_changes entries).symm⟩
      · rwa [Page.answered_changes]
      · rwa [Page.asked_changes]

/-- How a comparison goes, if it has an address. -/
theorem collects_compare (hw : w.Direct) {url : Url} (hurl : s.comparisonUrl base head = .ok url) :
    (s.comparison (.compare base head)).Collects (s.versioned .get url none) w
      (s.compare base head w).1 (s.compare base head w).2 := by
  have hcompare := compare_eq s base head w
  rw [hurl] at hcompare
  rw [hcompare]
  exact Listing.collects_collect _ _ w hw

/-- A comparison without an address fails, and sends nothing. -/
theorem compare_eq_of_error {why : Break} (hurl : s.comparisonUrl base head = .error why) :
    s.compare base head w = (.error (.service (.unanswered (.compare base head) why)), w) := by
  rw [compare_eq, hurl]

/-- **A comparison is complete or fails.** Without redirects, it is complete exactly if the replies it
uses up are its pages, and then has all their entries, once and in order. If a reply that it uses up
is no page, it fails. It sends at most one request more than there are answers. -/
theorem compare_complete (s : Service) (base head : String) (w : Wire) (hw : w.Direct) :
    (∀ files w', s.compare base head w = (.ok files, w') ↔
      ∃ url pages, s.comparisonUrl base head = .ok url ∧ s.Chain url pages ∧
        w.replies = Page.answered pages ++ w'.replies ∧ w'.sent = Page.asked pages ++ w.sent ∧
        files = (pages.flatMap Page.items).map Entry.change) ∧
    (∃ consumed, w.replies = consumed ++ (s.compare base head w).2.replies ∧
      ∀ reply ∈ consumed, ¬ reply.IsPage → ∃ e, (s.compare base head w).1 = .error e) ∧
    (s.compare base head w).2.sent.length ≤
      w.sent.length + w.replies.countP Reply.isAnswered + 1 := by
  refine ⟨fun files w' => compare_eq_ok_iff hw, ?_⟩
  cases hurl : s.comparisonUrl base head with
  | error why =>
    rw [compare_eq_of_error hurl]
    refine ⟨⟨[], rfl, fun reply hmem => absurd hmem List.not_mem_nil⟩, ?_⟩
    dsimp only
    omega
  | ok url =>
    have hcollects := collects_compare hw hurl
    obtain ⟨consumed, hconsumed⟩ := hcollects.suffix
    refine ⟨⟨consumed, hconsumed.symm, fun reply hmem hreply => ?_⟩, ?_⟩
    · refine hcollects.error_of_mem hconsumed.symm hmem fun a changes ha hsuccess hitems => ?_
      obtain ⟨entries, hentries, -⟩ := (comparison_items_iff hsuccess).1 hitems
      exact hreply ⟨a, entries, ha, hsuccess, hentries⟩
    · have hsent := hcollects.sent_le
      omega

/-! ## Two pages -/

/-- A service with one repository. -/
def sample : Service :=
  ⟨"https://api.example.org", "owner", "name", "token", none, .usual⟩

/-- A page with two entries and a link to the next. -/
def firstPage : Response :=
  ⟨200, [("link", "<https://api.example.org/more?page=2>; rel=\"next\"")], Text.utf8
    ("\x7b\"files\":[\x7b\"filename\":\"EIPS/eip-7.md\",\"status\":\"removed\"\x7d,"
      ++ "\x7b\"filename\":\"EIPS/eip-6.md\",\"status\":\"renamed\","
      ++ "\"previous_filename\":\"EIPS/eip-5.md\"\x7d]\x7d").toList⟩

/-- The last page, with an entry whose status is not known and a copied file. -/
def lastPage : Response :=
  ⟨200, [], Text.utf8
    ("\x7b\"files\":[\x7b\"filename\":\"EIPS/eip-8.md\",\"status\":\"touched\"\x7d,"
      ++ "\x7b\"filename\":\"EIPS/eip-9.md\",\"status\":\"copied\"\x7d]\x7d").toList⟩

/-- Both pages make up a comparison, and nothing is left on the wire. -/
theorem compare_complete_sample : ∃ w',
    sample.compare "base" "head" (.start [.answered firstPage, .answered lastPage]) =
      (.ok [⟨"EIPS/eip-7.md", none, .removed⟩, ⟨"EIPS/eip-6.md", some "EIPS/eip-5.md", .renamed⟩,
        ⟨"EIPS/eip-8.md", none, .modified⟩, ⟨"EIPS/eip-9.md", none, .added⟩], w') ∧
    w'.replies = [] ∧ w'.requests.map (·.url.text) =
      ["https://api.example.org/repos/owner/name/compare/base...head?per_page=100",
        "https://api.example.org/more?page=2"] := by
  have hdirect : (Wire.start [.answered firstPage, .answered lastPage]).Direct := by
    intro reply hreply
    rcases List.mem_pair.1 hreply with rfl | rfl <;> rfl
  obtain ⟨hiff, -, -⟩ := compare_complete sample "base" "head" _ hdirect
  have hurl : sample.comparisonUrl "base" "head" = .ok ⟨.https, "api.example.org", none,
      "/repos/owner/name/compare/base...head", some "per_page=100", none⟩ := by
    decide +kernel
  have hnext : sample.addressing.read "https://api.example.org/more?page=2" =
      .ok ⟨.https, "api.example.org", none, "/more", some "page=2", none⟩ := by
    decide +kernel
  have hfirst : Body.entries? firstPage.body = some [⟨"EIPS/eip-7.md", "removed", none⟩,
      ⟨"EIPS/eip-6.md", "renamed", some "EIPS/eip-5.md"⟩] := by
    decide +kernel
  have hlast : Body.entries? lastPage.body = some [⟨"EIPS/eip-8.md", "touched", none⟩,
      ⟨"EIPS/eip-9.md", "copied", none⟩] := by
    decide +kernel
  have hlink : firstPage.nextLink? = some "https://api.example.org/more?page=2" := by
    decide +kernel
  refine ⟨⟨[], _⟩, (hiff _ _).2 ⟨_, _, hurl,
    .more rfl hfirst hlink hnext (.last rfl hlast rfl), rfl, rfl, ?_⟩, rfl, ?_⟩
  · decide +kernel
  · decide +kernel

end Service

end ProposalGate.Rest
