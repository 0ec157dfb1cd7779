import ProposalGate.Authorship
import ProposalGate.Proofs.Schedule.Replies
import ProposalGate.Proofs.Schedule.Results

/-!
# Whom an author list names

`Resolves` says which identity a token stands for, one rule for each way the directory can answer,
and `Names` says whom the header of a version names. The roster that the program resolves from a
header is made of the identities it names (`proposalOf_yields`). If the directory has one answer to
each query then all tokens with one search key stand for one identity (`Resolves.unique`), and so
whoever is named is on the roster (`Names.mem`).
-/

namespace ProposalGate.Authorship

open Forge (Answers Program Reply)

variable {answers : Answers}

/-- A token stands for an identity. -/
inductive Resolves (answers : Answers) (token : String) : Identity → Prop where
  /-- a login stands for itself -/
  | login : isLogin token = true → Resolves answers token (.ofLogin token)
  /-- a contact stands for the first account found -/
  | account {login : String} {others : List String} : isLogin token = false →
      answers (.users (searchKey token)) (.ok (login :: others)) →
      Resolves answers token (.ofLogin login)
  /-- a contact without an account stands for itself -/
  | unknown : isLogin token = false → answers (.users (searchKey token)) (.ok []) →
      Resolves answers token (.ofContact (searchKey token))
  /-- a contact whose look-up fails or takes too long stands for itself -/
  | failed {e : Error} : isLogin token = false → answers (.users (searchKey token)) (.error e) →
      Resolves answers token (.ofContact (searchKey token))

/-- The header of a version names an identity. -/
def Names (answers : Answers) (v : Version) (i : Identity) : Prop :=
  ∃ list, v.header.authors? = some list ∧ ∃ token ∈ AuthorList.tokens list, Resolves answers token i

theorem identify_yields_iff {token : String} {i : Identity} :
    (identify token).Yields answers i ↔ Resolves answers token i := by
  rw [identify]
  split
  · next hlogin =>
    constructor
    · rintro rfl
      exact .login hlogin
    · rintro (_ | ⟨hcontact, -⟩ | ⟨hcontact, -⟩ | ⟨hcontact, -⟩)
      · exact rfl
      -- the other rules are for contacts
      all_goals exact absurd hlogin (by simp [hcontact])
  · next hlogin =>
    have hcontact : isLogin token = false := by simpa using hlogin
    constructor
    · rintro ⟨reply, hreply, rfl⟩
      rcases reply with e | _ | ⟨login, others⟩
      · exact .failed hcontact hreply
      · exact .unknown hcontact hreply
      · exact .account hcontact hreply
    · rintro (hlogin' | ⟨-, h⟩ | ⟨-, h⟩ | ⟨-, h⟩)
      · exact absurd hlogin' hlogin
      all_goals exact ⟨_, h, rfl⟩

/-- A contact stands for what an answer to its query makes of it. -/
theorem resolves_contact_iff {token : String} {i : Identity} (hcontact : isLogin token = false) :
    Resolves answers token i ↔
      ∃ reply, answers (.users (searchKey token)) reply ∧ identityOf (searchKey token) reply = i := by
  rw [← identify_yields_iff, identify, if_neg (by simp [hcontact])]
  exact Iff.rfl

/-- If no query has two answers, then all spellings of a contact stand for one identity. -/
theorem Resolves.unique (hsettled : answers.Settled) {token token' : String} {i i' : Identity}
    (h : Resolves answers token i) (h' : Resolves answers token' i')
    (hcontact : isLogin token = false) (hcontact' : isLogin token' = false)
    (hkey : searchKey token' = searchKey token) : i = i' := by
  obtain ⟨reply, hreply, hi⟩ := (resolves_contact_iff hcontact).1 h
  rw [resolves_contact_iff hcontact', hkey] at h'
  obtain ⟨reply', hreply', hi'⟩ := h'
  obtain rfl := hsettled _ reply reply' hreply hreply'
  exact hi.symm.trans hi'

/-- If the directory has one answer to each query, a token stands for the identity that the program
evaluates to. -/
theorem resolves_only_iff {replies : (c : Forge.Call) → Reply c} {token : String} {i : Identity} :
    Resolves (.only replies) token i ↔ (identify token).eval replies = i := by
  rw [← identify_yields_iff]
  rw [identify]
  split
  · exact Iff.rfl
  · constructor
    · rintro ⟨_, rfl, h⟩
      exact h
    · exact fun h => ⟨_, rfl, h⟩

theorem authorsOf_yields {list : String} {r : Roster} (h : (authorsOf list).Yields answers r) :
    (∀ i ∈ r, ∃ token ∈ AuthorList.tokens list, Resolves answers token i) ∧
      ∀ token ∈ AuthorList.tokens list, ∃ i ∈ r, Resolves answers token i := by
  obtain ⟨is, his, rfl⟩ := Program.yields_seq.1 h
  simp only [Roster.mem_ofList, ← identify_yields_iff]
  exact (Program.mem_of_yields_forAll his).symm

/-- The proposal that a version amounts to has the identities that its header names for its
authors, at least one for every token. -/
theorem proposalOf_yields {v : Version} {p : Proposal} (h : (proposalOf v).Yields answers p) :
    p = .ofVersion v p.authors ∧ (∀ i ∈ p.authors, Names answers v i) ∧
      ∀ list, v.header.authors? = some list → ∀ token ∈ AuthorList.tokens list,
        ∃ i ∈ p.authors, Resolves answers token i := by
  rw [proposalOf] at h
  cases hlist : v.header.authors? with
  | none =>
    simp only [hlist, Program.yields_seq, Program.yields_pure] at h
    obtain ⟨r, rfl, rfl⟩ := h
    exact ⟨rfl, fun i hi => absurd hi Roster.not_mem_empty, fun _ h => absurd h (by simp)⟩
  | some list =>
    simp only [hlist, Program.yields_seq, Program.yields_pure] at h
    obtain ⟨r, hr, rfl⟩ := h
    obtain ⟨hnamed, hall⟩ := authorsOf_yields hr
    refine ⟨rfl, fun i hi => ⟨list, hlist, hnamed i hi⟩, fun list' hlist' => ?_⟩
    obtain rfl := Option.some.inj hlist'
    exact hall

/-- A token stands for one identity, if no query has two answers. -/
theorem Resolves.eq (hsettled : answers.Settled) {token : String} {i i' : Identity}
    (h : Resolves answers token i) (h' : Resolves answers token i') : i = i' := by
  cases hlogin : isLogin token with
  | false => exact h.unique hsettled h' hlogin hlogin rfl
  | true =>
    rw [← identify_yields_iff, identify, if_pos hlogin] at h h'
    exact h.symm.trans h'

/-- Whoever the header names is among the authors, if no query has two answers. -/
theorem Names.mem (hsettled : answers.Settled) {v : Version} {p : Proposal} {i : Identity}
    (hi : Names answers v i) (h : (proposalOf v).Yields answers p) : i ∈ p.authors := by
  obtain ⟨list, hlist, token, htoken, hres⟩ := hi
  obtain ⟨j, hj, hres'⟩ := (proposalOf_yields h).2.2 list hlist token htoken
  rwa [hres.eq hsettled hres']

/-! ## Every pool is wide enough -/

theorem identify_live (token : String) : (identify token).Live := by
  rw [identify]
  split
  · trivial
  · exact fun _ => trivial

theorem authorsOf_live (list : String) : (authorsOf list).Live :=
  ⟨id, fun _ => identify_live _, fun _ => trivial⟩

theorem proposalOf_live (v : Version) : (proposalOf v).Live := by
  rw [proposalOf]
  cases v.header.authors? with
  | none => trivial
  | some list => exact Program.Live.bind (authorsOf_live list) fun _ => trivial

end ProposalGate.Authorship
