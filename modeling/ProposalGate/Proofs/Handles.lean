import Mathlib.Data.List.TakeWhile
import ProposalGate.Proofs.Merge
import ProposalGate.Proofs.Reviewers
import ProposalGate.Proofs.Schedule.Termination

/-!
# Which handles name somebody

A group of an author list that holds nothing but blanks is left out, but at signs are taken from a
handle only later, and blanks between them and the login are never taken away. So a handle may have
no login (`isVoid`): it is made of at signs alone, or a blank follows them. The identity of such a
handle is that of an account, without a login or with one that begins with a blank.

`Handles` says exactly when this happens. All accounts among the authors have logins without blanks
around them if no handle is void; the empty login is among them if a handle is made of at signs
alone; a proposal has no identifiable authors only if its author list has no tokens at all, void or
not; and the empty login is asked for a review whenever it is among authors who do not approve.
`handles_authorsOf` is the statement about the program, for a directory that finds proper logins,
and `nobody_is_author` is a list that names nobody and has an author.
-/

namespace ProposalGate

open Forge (Answers Call Program Reply Trace)
open Forge.Program (Always RunsTo)

variable {list token login : String} {i : Identity} {r : Roster} {answers : Answers}

/-! ## Logins -/

/-- A login that an account may have: there is something to it, and no blanks are around it. -/
def IsProper (login : String) : Prop :=
  login ≠ "" ∧ Text.trim login = login

/-- A login that a directory may find: there is something to it, and neither blanks nor at signs are
in it. -/
def IsClean (login : String) : Prop :=
  login ≠ "" ∧ ∀ c ∈ login.toList, Text.isMark c = false

/-- Whether a token is a handle without a login after its at signs. -/
def isVoid (token : String) : Bool :=
  Authorship.isLogin token && (Identity.bareLogin token).head?.all Text.isBlank

theorem isProper_ofList_iff {cs : List Char} :
    IsProper (String.ofList cs) ↔ cs ≠ [] ∧ Text.trimmed cs = cs := by
  simp [IsProper, Text.trim, ← String.toList_inj]

namespace Identity

/-- A login does not end in a blank, however it is spelled. -/
theorem isBlank_of_getLast?_bareLogin {c : Char} (h : (bareLogin login).getLast? = some c) :
    Text.isBlank c = false := by
  obtain ⟨signs, hsigns⟩ := List.dropWhile_suffix (l := Text.trimmed login.toList)
    (fun c => decide (c = accountSign))
  have hne : bareLogin login ≠ [] := by
    rintro hnil
    rw [hnil] at h
    cases h
  have hlast : (Text.trimmed login.toList).getLast? = some c := by
    rw [← hsigns]
    exact (List.getLast?_append_of_ne_nil _ hne).trans h
  exact Text.isBlank_of_getLast?_trimmed hlast

/-- The at signs before it are all gone. -/
theorem ne_of_head?_bareLogin {c : Char} (h : (bareLogin login).head? = some c) :
    c ≠ accountSign := by
  have hhead := List.head?_dropWhile_not (fun c => decide (c = accountSign))
    (Text.trimmed login.toList)
  rw [← bareLogin, h] at hhead
  simpa using hhead

/-- **The login of an account is proper** exactly if something follows its at signs that is no
blank. -/
theorem isProper_login?_ofLogin :
    (∀ l, (ofLogin login).login? = some l → IsProper l) ↔
      (bareLogin login).head?.all Text.isBlank = false := by
  rw [login?_ofLogin]
  simp only [Option.some.injEq, forall_eq', isProper_ofList_iff]
  cases hbare : bareLogin login with
  | nil => simp [Text.lowerFrom]
  | cons c rest =>
    have hsign : c ≠ accountSign := ne_of_head?_bareLogin (by rw [hbare]; rfl)
    simp only [List.head?_cons, Option.all_some]
    cases hc : Text.isBlank c with
    | true =>
      rw [Text.lowerFrom_cons_of_isBlank [] rest hc]
      refine iff_of_false (fun h => ?_) (by simp)
      simp [Text.isBlank_of_trimmed_eq_cons h.2] at hc
    | false =>
      obtain ⟨d, rest', hlower, hd⟩ := Text.lowerFrom_cons [] rest
        (Text.isMark_eq_false_iff.2 ⟨hsign, hc⟩)
      refine iff_of_true
        ⟨by simp [hlower], Text.trimmed_eq_self (fun c' hc' => ?_) fun c' hc' => ?_⟩ rfl
      · rw [hlower] at hc'
        rw [← Option.some.inj hc']
        exact (Text.isMark_eq_false_iff.1 hd).2
      · refine Text.isBlank_of_getLast?_lowerFrom (fun c hc => ?_) hc'
        rw [← hbare] at hc
        exact isBlank_of_getLast?_bareLogin hc

/-- There is no login exactly if there are only at signs. -/
theorem ofLogin_eq_account_empty_iff : ofLogin login = account "" ↔ bareLogin login = [] := by
  rw [← login?_eq_some_iff, login?_ofLogin]
  simp [← String.toList_inj, Text.lowerFrom_eq_nil_iff]

theorem bareLogin_of_isClean (h : IsClean login) : bareLogin login = login.toList := by
  have hblank : ∀ c ∈ login.toList, Text.isBlank c = false := fun c hc =>
    (Text.isMark_eq_false_iff.1 (h.2 c hc)).2
  have htrimmed : Text.trimmed login.toList = login.toList :=
    Text.trimmed_eq_self (fun c hc => hblank c (List.mem_of_head? hc))
      fun c hc => hblank c (List.mem_of_getLast? hc)
  rw [bareLogin, htrimmed]
  refine Text.dropWhile_eq_self_of_head? fun c hc => ?_
  exact decide_eq_false (Text.isMark_eq_false_iff.1 (h.2 c (List.mem_of_head? hc))).1

/-- What a directory finds is proper. -/
theorem head?_bareLogin_of_isClean (h : IsClean login) :
    (bareLogin login).head?.all Text.isBlank = false := by
  rw [bareLogin_of_isClean h]
  cases hlogin : login.toList with
  | nil => exact absurd (String.toList_eq_nil_iff.1 hlogin) h.1
  | cons c rest =>
    exact (Text.isMark_eq_false_iff.1 (h.2 c (by rw [hlogin]; exact List.mem_cons_self))).2

end Identity

/-! ## Tokens -/

/-- Whatever a search finds is clean. -/
def FindsClean : Answers
  | .users _, .ok logins => ∀ login ∈ logins, IsClean login
  | _, _ => True

namespace Authorship

theorem head?_of_isLogin_eq_false (h : token ∈ AuthorList.tokens list)
    (hcontact : isLogin token = false) : ∃ c ∈ token.toList, c ≠ Identity.accountSign := by
  obtain ⟨c, rest, htoken, -⟩ := AuthorList.toList_of_mem_tokens h
  refine ⟨c, by rw [htoken]; exact List.mem_cons_self, fun hc => ?_⟩
  simp [isLogin, htoken, hc] at hcontact

/-- **A token stands for a proper login or none**, unless it is a void handle. -/
theorem Resolves.isProper_iff (h : Resolves answers token i) (hmem : token ∈ AuthorList.tokens list)
    (hclean : ∀ c reply, answers c reply → FindsClean c reply) :
    (∀ l, i.login? = some l → IsProper l) ↔ isVoid token = false := by
  cases h with
  | login hlogin => rw [isVoid, hlogin, Bool.true_and, Identity.isProper_login?_ofLogin]
  | account hcontact hfound =>
    have hlogin := hclean _ _ hfound _ List.mem_cons_self
    refine iff_of_true ?_ (by simp [isVoid, hcontact])
    exact Identity.isProper_login?_ofLogin.2 (Identity.head?_bareLogin_of_isClean hlogin)
  | unknown hcontact | failed hcontact =>
    refine iff_of_true ?_ (by simp [isVoid, hcontact])
    simp [login?_contact hmem hcontact]

/-- A token stands for the account without a login if it is made of at signs alone. -/
theorem Resolves.eq_account_empty_iff (h : Resolves answers token i)
    (hmem : token ∈ AuthorList.tokens list)
    (hclean : ∀ c reply, answers c reply → FindsClean c reply) :
    i = .account "" ↔ ∀ c ∈ token.toList, c = Identity.accountSign := by
  cases h with
  | login hlogin =>
    rw [Identity.ofLogin_eq_account_empty_iff, Identity.bareLogin,
      AuthorList.trimmed_of_mem_tokens hmem, List.dropWhile_eq_nil_iff]
    simp
  | account hcontact hfound =>
    obtain ⟨c, hc, hne⟩ := head?_of_isLogin_eq_false hmem hcontact
    have hlogin := hclean _ _ hfound _ List.mem_cons_self
    refine iff_of_false (fun heq => ?_) fun hall => hne (hall c hc)
    rw [Identity.ofLogin_eq_account_empty_iff, Identity.bareLogin_of_isClean hlogin] at heq
    exact hlogin.1 (String.toList_eq_nil_iff.1 heq)
  | unknown hcontact | failed hcontact =>
    obtain ⟨c, hc, hne⟩ := head?_of_isLogin_eq_false hmem hcontact
    refine iff_of_false (fun heq => ?_) fun hall => hne (hall c hc)
    rw [← Identity.login?_eq_some_iff, login?_contact hmem hcontact] at heq
    cases heq

end Authorship

/-! ## Authors -/

/-- What the handles of an author list come to, given the authors. -/
structure Handles (list : String) (r : Roster) : Prop where
  /-- the logins of all accounts are proper if no handle is void -/
  proper : (∀ i ∈ r, ∀ login, i.login? = some login → IsProper login) ↔
    ∀ token ∈ AuthorList.tokens list, isVoid token = false
  /-- one of them is empty if a handle is made of at signs alone -/
  empty : .account "" ∈ r ↔
    ∃ token ∈ AuthorList.tokens list, ∀ c ∈ token.toList, c = Identity.accountSign
  /-- a proposal by these authors has no identifiable ones if there are no tokens -/
  identifiable : ∀ p approving, p.authors = r →
    ((∃ n, Proposal.gap? approving p = some (.noIdentifiableAuthors n)) ↔
      AuthorList.tokens list = [])
  /-- if nobody of them approves then the empty login is asked if a handle is made of at signs
  alone -/
  asked : ∀ p approving author, p.authors = r →
    ("" ∈ Notice.reviewers (Proposal.gap? approving p).toList author ↔
      (∃ token ∈ AuthorList.tokens list, ∀ c ∈ token.toList, c = Identity.accountSign) ∧
        (∀ i ∈ r, i ∉ approving) ∧ Identity.account "" ≠ .ofLogin author)

/-- A gap says that there are no identifiable authors exactly if there are no authors. -/
theorem Proposal.gap?_eq_noIdentifiableAuthors_iff {p : Proposal} {approving : Roster} :
    (∃ n, gap? approving p = some (.noIdentifiableAuthors n)) ↔ ∀ i, i ∉ p.authors := by
  rw [gap?]
  constructor
  · rintro ⟨n, hn⟩ i hi
    have hnonempty : p.authors.isEmpty = false := by
      simpa [Roster.isEmpty] using List.ne_nil_of_mem hi
    rw [hnonempty, if_neg Bool.false_ne_true] at hn
    split at hn
    · cases hn
    · cases Option.some.inj hn
  · intro hnobody
    have hempty : p.authors.isEmpty = true := by
      rw [Roster.isEmpty, List.isEmpty_iff]
      exact List.eq_nil_iff_forall_not_mem.2 hnobody
    exact ⟨_, by rw [hempty, if_pos rfl]⟩

/-- **The authors of a list and its handles.** -/
theorem handles_of_yields (h : (Authorship.authorsOf list).Yields answers r)
    (hclean : ∀ c reply, answers c reply → FindsClean c reply) : Handles list r := by
  obtain ⟨hnamed, hall⟩ := Authorship.authorsOf_yields h
  have hempty : .account "" ∈ r ↔
      ∃ token ∈ AuthorList.tokens list, ∀ c ∈ token.toList, c = Identity.accountSign := by
    constructor
    · intro hr
      obtain ⟨token, htoken, hres⟩ := hnamed _ hr
      exact ⟨token, htoken, (hres.eq_account_empty_iff htoken hclean).1 rfl⟩
    · rintro ⟨token, htoken, hsigns⟩
      obtain ⟨i, hi, hres⟩ := hall token htoken
      rwa [← (hres.eq_account_empty_iff htoken hclean).2 hsigns]
  refine ⟨⟨fun hproper token htoken => ?_, fun hvoid i hi => ?_⟩, hempty, ?_, ?_⟩
  · obtain ⟨i, hi, hres⟩ := hall token htoken
    exact (hres.isProper_iff htoken hclean).1 (hproper i hi)
  · obtain ⟨token, htoken, hres⟩ := hnamed i hi
    exact (hres.isProper_iff htoken hclean).2 (hvoid token htoken)
  · rintro p approving rfl
    rw [Proposal.gap?_eq_noIdentifiableAuthors_iff]
    constructor
    · intro hnobody
      refine List.eq_nil_iff_forall_not_mem.2 fun token htoken => ?_
      obtain ⟨i, hi, -⟩ := hall token htoken
      exact hnobody i hi
    · intro hnone i hi
      obtain ⟨token, htoken, -⟩ := hnamed i hi
      simp [hnone] at htoken
  · rintro p approving author rfl
    rw [Notice.mem_reviewers_iff, ← hempty, ← and_assoc]
    refine and_congr_left fun _ => ?_
    simp only [Option.mem_toList]
    exact Proposal.mem_missing_gap?_iff

/-- **Which handles of an author list name somebody.** On a forge whose searches find proper logins
the authors of a list can always be found, and are what `Handles` says of its handles, void ones
included. -/
theorem handles_authorsOf {σ : Type} {forge : Forge σ}
    (hdirectory : ∀ contact s logins, (forge (.users contact) s).1 = .ok logins →
      ∀ login ∈ logins, IsClean login) (list : String) :
    Always forge (Authorship.authorsOf list) fun _ r => Handles list r := by
  refine (Authorship.authorsOf_live list).always fun state t r s' h => ?_
  have hmeets : t.Meets FindsClean := by
    refine h.meets fun c s => ?_
    cases c with
    | users contact =>
      cases hreply : (forge (.users contact) s).1 with
      | error e => trivial
      | ok logins => exact hdirectory contact s logins hreply
    | _ => trivial
  exact handles_of_yields (h.ends.yields t.meets_answers) fun c reply => hmeets.of_answers

/-! ## A list that names nobody -/

/-- A forge that knows one address. -/
def oneAddress : (c : Call) → Reply c
  | .users contact => if contact = "bob@example.org" then .ok ["Bob"] else .ok []
  | c => Engine.editReplies (fun _ _ => Engine.draft) none c

theorem isClean_bob : IsClean "Bob" := by
  refine ⟨by decide, fun c hc => ?_⟩
  have hletters : "Bob".toList = ['B', 'o', 'b'] := rfl
  simp only [hletters, List.mem_cons, List.not_mem_nil, or_false] at hc
  rcases hc with rfl | rfl | rfl <;> decide

theorem isClean_oneAddress (contact : String) (s : Unit) (logins : List String)
    (h : (Forge.steady oneAddress (.users contact) s).1 = .ok logins) :
    ∀ login ∈ logins, IsClean login := by
  simp only [Forge.steady, oneAddress] at h
  split at h
  · exact Except.ok.inj h ▸ List.forall_mem_singleton.2 isClean_bob
  · exact Except.ok.inj h ▸ List.forall_mem_nil _

/-- The handles of this list name Alice and Bob, and so does the address. -/
theorem handles_authorsOf_proper : ∃ t r s',
    RunsTo (Forge.steady oneAddress) (.start ())
      (Authorship.authorsOf "Alice (@alice), Bob <bob@example.org>, Carol ( )") t r s' ∧
    ∀ i ∈ r, ∀ login, i.login? = some login → IsProper login := by
  have hall := handles_authorsOf isClean_oneAddress
    "Alice (@alice), Bob <bob@example.org>, Carol ( )"
  obtain ⟨t, r, s', h⟩ := hall.ends [] _ (.start ()) (.refl _)
  exact ⟨t, r, s', h, (hall.good _ _ _ _ h).proper.2 (by decide +kernel)⟩

/-- **A list that names nobody has an author.** The author is an account without a login. A proposal
of theirs is said to miss their approval, and the empty login is asked for a review. -/
theorem nobody_is_author :
    (∀ contact s logins, (Forge.steady oneAddress (.users contact) s).1 = .ok logins →
      ∀ login ∈ logins, IsClean login) ∧
    ∃ t r s',
    RunsTo (Forge.steady oneAddress) (.start ()) (Authorship.authorsOf "Nobody (@)") t r s' ∧
    (∃ i ∈ r, i.login? = some "" ∧ ¬ IsProper "") ∧
    (∀ p, p.authors = r → Proposal.gap? .empty p =
      some (.missingAuthorApproval (p.number?.getD 0) [.account ""])) ∧
    Notice.reviewers [.missingAuthorApproval 7 r.members] "alice" = [""] := by
  obtain ⟨t, h⟩ := Forge.Program.runsTo_run (Forge.steady oneAddress)
    (Authorship.authorsOf_live "Nobody (@)") (.start ())
  have hnobody : ((Authorship.authorsOf "Nobody (@)").run (Forge.steady oneAddress)
      (.start ())).1 = .ofList [.account ""] := by
    decide +kernel
  rw [hnobody] at h
  refine ⟨isClean_oneAddress, t, _, _, h,
    ⟨.account "", by simp, by decide +kernel, fun h => h.1 rfl⟩, ?_, ?_⟩
  · intro p hp
    rw [Proposal.gap?, hp, if_neg (by decide +kernel), if_neg (by decide +kernel)]
    rfl
  · decide +kernel

end ProposalGate
