import ProposalGate.Proofs.Schedule.Search
import ProposalGate.Proofs.Traffic

/-!
# Resolutions at the same time

`resolveAll` resolves any number of tokens and author lists, all at the same time. Which of them are
under way together, and what the directory says by the time a search is answered, is left open: a
resolution may begin late, even after all others have ended, and a search may take long, fail, or be
answered differently from an earlier one (`Program.Reaches`).

The search key of a contact is what all its spellings have in common. Each key is searched for at
most once, by whoever comes first, and all its spellings stand for the one identity that the reply
gives, a failure being a reply like any other (`resolutions_converge`). A login has no key, since
it stands for itself.
-/

namespace ProposalGate.Authorship

open Forge (Event Footprint Program Record Reply Signal)
open Forge.Program (Ends Reaches RunsTo Steps Tallies)

variable {α β : Type} {answers : Forge.Answers} {tokens lists : List String} {record : Record}

/-- A task whose result says what it is the result of. -/
def tagged (task : α → Program β) (a : α) : Program (α × β) := do
  let b ← task a
  return (a, b)

/-- Some tokens and some author lists are resolved, all at the same time. -/
def resolveAll (tokens lists : List String) :
    Program (List (String × Identity) × List (String × Roster)) :=
  Program.pair (Program.forAll tokens.length tokens (tagged identify))
    (Program.forAll lists.length lists (tagged authorsOf))

/-- All tokens that are resolved. -/
def allTokens (tokens lists : List String) : List String :=
  tokens ++ lists.flatMap AuthorList.tokens

/-! ## What is asked of the forge -/

theorem footprint_tagged {task : α → Program β} {a : α} {m : Multiset Event} {b : α × β}
    {found : List String} (h : (tagged task a).Tallies m b)
    (htask : ∀ m b, (task a).Tallies m b → Footprint m [] found) : Footprint m [] found := by
  obtain ⟨b, m₁, m₂, hb, ⟨rfl, -⟩, rfl⟩ := Tallies.of_bind h
  rw [add_zero]
  exact htask _ _ hb

/-- Nothing is asked of the forge but to look the contacts up. -/
theorem footprint_resolveAll {m : Multiset Event}
    {result : List (String × Identity) × List (String × Roster)}
    (h : (resolveAll tokens lists).Tallies m result) :
    Footprint m [] (searched (allTokens tokens lists)) := by
  obtain ⟨m₁, m₂, htokens, hlists, rfl⟩ := Tallies.of_pair h
  have hfirst := Footprint.forAll htokens fun _ _ _ hb =>
    footprint_tagged hb fun _ _ => footprint_identify
  have hsecond := Footprint.forAll hlists fun _ _ _ hb =>
    footprint_tagged hb fun _ _ => footprint_authorsOf
  rw [← searched_flatMap, List.flatMap_singleton'] at hfirst
  rw [← searched_flatMap] at hsecond
  rw [allTokens, searched_append]
  exact hfirst.add hsecond

theorem resolveAll_live (tokens lists : List String) : (resolveAll tokens lists).Live := by
  refine ⟨⟨id, fun _ => ?_, fun _ => trivial⟩, ⟨id, fun _ => ?_, fun _ => trivial⟩,
    fun _ _ => trivial⟩
  · exact Program.Live.bind (identify_live _) fun _ => trivial
  · exact Program.Live.bind (authorsOf_live _) fun _ => trivial

/-! ## The results -/

/-- What the tagged tasks of a pool come to is for the elements of the list, each once. -/
theorem yields_forAll_tagged {width : Nat} {as : List α} {task : α → Program β}
    {bs : List (α × β)} (h : (Program.forAll width as (tagged task)).Yields answers bs) :
    (bs.map Prod.fst).Perm as ∧ ∀ a b, (a, b) ∈ bs → (task a).Yields answers b := by
  obtain ⟨bs', hbs', hperm⟩ := Program.yields_forAll.1 h
  have hall : bs'.map Prod.fst = as ∧ ∀ x ∈ bs', (task x.1).Yields answers x.2 := by
    clear h hperm
    induction hbs' with
    | nil => exact ⟨rfl, fun x hx => absurd hx List.not_mem_nil⟩
    | cons ha _ ih =>
      obtain ⟨b, hb, rfl⟩ := Program.yields_seq.1 ha
      exact ⟨congrArg _ ih.1, List.forall_mem_cons.2 ⟨hb, ih.2⟩⟩
  refine ⟨(hperm.map Prod.fst).trans (.of_eq hall.1), fun a b hmem => ?_⟩
  exact hall.2 (a, b) (hperm.subset hmem)

/-- Who is on the roster of an author list, if no query has two answers. -/
theorem mem_authorsOf_iff (hsettled : answers.Settled) {list : String} {r : Roster}
    (h : (authorsOf list).Yields answers r) (i : Identity) :
    i ∈ r ↔ ∃ token ∈ AuthorList.tokens list, Resolves answers token i := by
  obtain ⟨hnamed, hall⟩ := authorsOf_yields h
  refine ⟨hnamed i, fun ⟨token, htoken, hres⟩ => ?_⟩
  obtain ⟨j, hj, hres'⟩ := hall token htoken
  rwa [hres.eq hsettled hres']

/-! ## Searches -/

/-- What is known of the searches at any time. -/
structure Coalesced (tokens lists : List String) (record : Record) : Prop where
  /-- nothing but searches reaches the forge -/
  calls_eq : record.calls = record.searches.map .users
  /-- no key is searched for twice -/
  searches_nodup : record.searches.Nodup
  /-- only the keys of contacts are searched for -/
  searched : ∀ key ∈ record.searches,
    ∃ token ∈ allTokens tokens lists, isLogin token = false ∧ searchKey token = key
  /-- every look-up that goes on does so with a reply received -/
  shared : ∀ key reply, .happened (.lookedUp key reply) ∈ record → .received key reply ∈ record
  /-- a key has one reply, so all its spellings stand for one identity -/
  same : ∀ token token' i i', isLogin token = false → isLogin token' = false →
    searchKey token' = searchKey token → Resolves record.answers token i →
      Resolves record.answers token' i' → i = i'

/-- What the resolutions come to. -/
structure Converged (tokens lists : List String) (record : Record)
    (identities : List (String × Identity)) (rosters : List (String × Roster)) : Prop where
  /-- every token is resolved -/
  tokens_perm : (identities.map Prod.fst).Perm tokens
  /-- every author list is resolved -/
  lists_perm : (rosters.map Prod.fst).Perm lists
  /-- a token is resolved to the identity that it stands for, given the one reply to its key -/
  resolves : ∀ token i, (token, i) ∈ identities → Resolves record.answers token i
  /-- a list is resolved to the identities that its tokens stand for -/
  roster : ∀ list r, (list, r) ∈ rosters →
    ∀ i, i ∈ r ↔ ∃ token ∈ AuthorList.tokens list, Resolves record.answers token i

/-- Whatever happens in some steps of the resolutions happens in a whole run of them. That looks
contacts up, and does nothing else. -/
theorem footprint_of_steps {p : Program (List (String × Identity) × List (String × Roster))}
    {t : Forge.Trace} (h : Steps (resolveAll tokens lists) t p) :
    (∀ c reply, .called c reply ∉ t) ∧
      ∀ key reply, .lookedUp key reply ∈ t → key ∈ searched (allTokens tokens lists) := by
  obtain ⟨t', result, s', hrun⟩ := (resolveAll_live tokens lists).ends
    (Forge.steady Forge.Cells.blank.replies) h (.start ())
  have hfootprint := footprint_resolveAll (Ends.tallies (h.trans hrun.ends))
  refine ⟨fun c reply hmem => ?_, fun key reply hmem => ?_⟩
  · exact absurd (hfootprint.mem_made (List.mem_append_left t' hmem)) List.not_mem_nil
  · exact hfootprint.mem_found (List.mem_append_left t' hmem)

variable {p : Program (List (String × Identity) × List (String × Roster))} {cells : Forge.Cells}

/-- The resolutions make no calls, their look-ups do. -/
theorem not_called (h : Reaches (resolveAll tokens lists) record p cells) (c : Forge.Call)
    (reply : Reply c) : .happened (.called c reply) ∉ record := fun hmem =>
  (footprint_of_steps h.steps).1 c reply (Record.mem_events.2 hmem)

theorem settled_answers (h : Reaches (resolveAll tokens lists) record p cells) :
    record.answers.Settled :=
  h.kept.settled fun key => not_called h (.users key)

theorem coalesced_of_reaches (h : Reaches (resolveAll tokens lists) record p cells) :
    Coalesced tokens lists record where
  calls_eq := Record.calls_eq_searches (not_called h)
  searches_nodup := h.kept.searches_nodup
  searched key hkey := by
    obtain ⟨t, reply, p', hsteps, hmem⟩ := h.exists_lookedUp (Record.mem_searches.1 hkey)
    obtain ⟨token, htoken, rfl⟩ := List.mem_map.1 ((footprint_of_steps hsteps).2 key reply hmem)
    obtain ⟨hall, hcontact⟩ := List.mem_filter.1 htoken
    exact ⟨token, hall, by simpa using hcontact, rfl⟩
  shared key reply hmem := (h.kept.filled_iff key reply).1 (h.kept.lookedUp key reply hmem)
  same token token' i i' hcontact hcontact' hkey hi hi' :=
    hi.unique (settled_answers h) hi' hcontact hcontact' hkey

theorem converged_of_reaches {identities : List (String × Identity)}
    {rosters : List (String × Roster)}
    (h : Reaches (resolveAll tokens lists) record (.done (identities, rosters)) cells) :
    Converged tokens lists record identities rosters := by
  have hyields : (resolveAll tokens lists).Yields record.answers (identities, rosters) :=
    Ends.yields h.steps h.kept.meets
  obtain ⟨htokens, hlists⟩ := Program.yields_pair.1 hyields
  obtain ⟨htokensPerm, hidentities⟩ := yields_forAll_tagged htokens
  obtain ⟨hlistsPerm, hrosters⟩ := yields_forAll_tagged hlists
  exact {
    tokens_perm := htokensPerm
    lists_perm := hlistsPerm
    resolves := fun token i hmem => identify_yields_iff.1 (hidentities token i hmem)
    roster := fun list r hmem => mem_authorsOf_iff (settled_answers h) (hrosters list r hmem) }

/-- **Resolutions converge.** However they are interleaved, and whatever becomes of the directory in
the meantime, every key is searched for at most once, and all that have the key come to the identity
that the one reply gives. No resolution gets stuck. Any run on a forge is one of these, with the same
calls. -/
theorem resolutions_converge (tokens lists : List String) :
    (∀ record p cells, Reaches (resolveAll tokens lists) record p cells →
      Coalesced tokens lists record ∧
        ∃ new result cells', Reaches (resolveAll tokens lists) (record ++ new) (.done result) cells') ∧
    (∀ record identities rosters cells,
      Reaches (resolveAll tokens lists) record (.done (identities, rosters)) cells →
        Converged tokens lists record identities rosters) ∧
    ∀ (σ : Type) (forge : Forge σ) (state : σ) t result s',
      RunsTo forge (.start state) (resolveAll tokens lists) t result s' →
        ∃ record cells, Reaches (resolveAll tokens lists) record (.done result) cells ∧
          record.calls.Perm s'.calls := by
  refine ⟨fun record p cells h => ⟨coalesced_of_reaches h, h.finish (resolveAll_live ..)⟩,
    fun record identities rosters cells h => converged_of_reaches h, ?_⟩
  intro σ forge state t result s' h
  obtain ⟨record, cells, hreaches, -, hcalls⟩ := h.reaches
  exact ⟨record, cells, hreaches, hcalls⟩

/-! ## Two spellings of one contact -/

/-- Nobody waits for a place in a pool that is as wide as it has tasks. -/
theorem unfinishedBefore_lt {count : Nat} (tasks : Fin count → Program β) (i : Fin count) :
    Program.unfinishedBefore tasks i < count := by
  have hself : (decide (i < i) && !(tasks i).isDone) = false := by simp
  have hlt := List.countP_lt_length_iff (p := fun j => decide (j < i) && !(tasks j).isDone).2
    ⟨i, List.mem_finRange i, hself⟩
  rwa [List.length_finRange] at hlt

/-- Any contact may be the first to be looked up. -/
theorem awaits_resolveAll {token : String} (htoken : token ∈ tokens)
    (hcontact : isLogin token = false) :
    (resolveAll tokens lists).Awaits (searchKey token) := by
  obtain ⟨i, hi, rfl⟩ := List.mem_iff_getElem.1 htoken
  have hidentify : tagged identify tokens[i] = Program.lookUp (searchKey tokens[i]) fun reply =>
      .done (tokens[i], identityOf (searchKey tokens[i]) reply) := by
    rw [tagged, identify, if_neg (by simp [hcontact])]
    rfl
  have hstep : (tagged identify tokens[i]).Step [.lookedUp (searchKey tokens[i]) (.ok [])]
      (.done (tokens[i], identityOf (searchKey tokens[i]) (.ok []))) := by
    rw [hidentify]
    exact .lookUp (.ok [])
  exact ⟨_, _, .first (.task (i := ⟨i, hi⟩) (unfinishedBefore_lt _ _) hstep)⟩

/-- Two spellings of one contact are resolved at the same time. The second is the first to be looked
up, and the search fails. -/
theorem resolutions_converge_race : ∃ record identities cells,
    Reaches (resolveAll ["bob@example.org", "BOB@Example.org"] []) record
      (.done (identities, [])) cells ∧
    record.calls = [.users "bob@example.org"] ∧
    identities.Perm [("bob@example.org", ⟨"bob@example.org"⟩),
      ("BOB@Example.org", ⟨"bob@example.org"⟩)] := by
  obtain ⟨hany, hdone, -⟩ := resolutions_converge ["bob@example.org", "BOB@Example.org"] []
  have hkeys : ∀ token ∈ ["bob@example.org", "BOB@Example.org"],
      isLogin token = false ∧ searchKey token = "bob@example.org" := by decide +kernel
  have hcontactText : Identity.ofContact "bob@example.org" = ⟨"bob@example.org"⟩ := by
    decide +kernel
  -- the search is sent and fails, and everything else happens after that
  have hawaits : (resolveAll ["bob@example.org", "BOB@Example.org"] []).Awaits
      (searchKey "BOB@Example.org") := awaits_resolveAll (by simp) (hkeys _ (by simp)).1
  rw [(hkeys "BOB@Example.org" (by simp)).2] at hawaits
  have hfailed := (Reaches.start.move (.send hawaits rfl)).move
    (.receive (.error .client) (Function.update_self ..))
  obtain ⟨-, new, ⟨identities, rosters⟩, cells, hreach⟩ := hany _ _ _ hfailed
  generalize hrecord : _ ++ new = record at hreach
  have hsent : .sent "bob@example.org" ∈ record := by simp [← hrecord]
  have hreceived : .received "bob@example.org" (.error .client) ∈ record := by simp [← hrecord]
  obtain ⟨hcoalesced, -⟩ := hany _ _ _ hreach
  have hconverged := hdone _ _ _ _ hreach
  obtain rfl : rosters = [] := by simpa using hconverged.lists_perm
  refine ⟨record, identities, cells, hreach, ?_, ?_⟩
  · have hsearches : record.searches.Perm ["bob@example.org"] := by
      refine (List.perm_ext_iff_of_nodup hcoalesced.searches_nodup (List.nodup_singleton _)).2
        fun key => ⟨fun hkey => ?_, fun hkey => ?_⟩
      · obtain ⟨token, htoken, -, rfl⟩ := hcoalesced.searched key hkey
        rw [(hkeys token (by simpa [allTokens] using htoken)).2]
        exact List.mem_singleton_self _
      · obtain rfl := List.mem_singleton.1 hkey
        exact Record.mem_searches.2 hsent
    rw [hcoalesced.calls_eq, List.perm_singleton.1 hsearches]
    rfl
  · have hall : ∀ x ∈ identities, (x.1, ⟨"bob@example.org"⟩) = x := by
      rintro ⟨token, i⟩ hmem
      have htoken := hconverged.tokens_perm.subset (List.mem_map_of_mem hmem)
      obtain ⟨hcontact, hkey⟩ := hkeys token htoken
      have hreply : record.answers (.users (searchKey token)) (.error .client) := by
        rw [hkey]
        exact ⟨_, hreceived, .received ..⟩
      have hi := hcoalesced.same token token _ i hcontact hcontact rfl (.failed hcontact hreply)
        (hconverged.resolves token i hmem)
      rw [← hi, hkey, hcontactText]
    have hperm := hconverged.tokens_perm.map fun token => (token, Identity.mk "bob@example.org")
    rw [List.map_map] at hperm
    rwa [← List.map_id' identities, ← List.map_congr_left hall]

end ProposalGate.Authorship
