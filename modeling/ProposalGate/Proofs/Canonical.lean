import ProposalGate.Proofs.Handles

/-!
# Identities are canonical

The text of an identity is one of the spellings of what it is the identity of: an account's is a
spelling of its login (`Identity.ofLogin_text`), a contact's of the contact
(`Identity.ofContact_text`). So a text says by its first character which of the two it stands for,
and reading it gives the identity back (`Identity.ofText`). That takes lower case to be idempotent
and to leave at signs and blanks alone.

`FromAccount` says that a token is a login or that its look-up found one. It is for these tokens and
no others that an author begins with an at sign (`Authorship.Resolves.isLogin_text_iff`).
-/

namespace ProposalGate

open Forge (Answers)
open Forge.Program (RunsTo Session)

variable {list token login : String} {i : Identity} {r : Roster} {answers : Answers}

namespace Identity

/-! ## Identities read again -/

/-- The identity that a text stands for: an account's if it is a login, a contact's if not. -/
def ofText (text : String) : Identity :=
  if Authorship.isLogin text then ofLogin text else ofContact text

/-- The identity of a login has the sign of an account. -/
theorem isLogin_text_ofLogin (login : String) : Authorship.isLogin (ofLogin login).text = true := by
  simp [Authorship.isLogin, ofLogin]

/-- What is left of a login without its signs does not get one from lower-casing. -/
theorem head?_lowerFrom_bareLogin {c : Char}
    (h : (Text.lowerFrom [] (bareLogin login)).head? = some c) : c ≠ accountSign := by
  cases hbare : bareLogin login with
  | nil => simp [hbare, Text.lowerFrom] at h
  | cons b rest =>
    have hsign : b ≠ accountSign := ne_of_head?_bareLogin (by rw [hbare]; rfl)
    cases hb : Text.isBlank b with
    | true =>
      rw [hbare, Text.lowerFrom_cons_of_isBlank [] rest hb] at h
      rwa [← Option.some.inj h]
    | false =>
      obtain ⟨d, rest', hlower, hd⟩ := Text.lowerFrom_cons [] rest
        (Text.isMark_eq_false_iff.2 ⟨hsign, hb⟩)
      rw [hbare, hlower] at h
      rw [← Option.some.inj h]
      exact (Text.isMark_eq_false_iff.1 hd).1

/-- The login in an identity's text is the one in lower case: nothing more is taken from it. -/
theorem bareLogin_text_ofLogin (login : String) :
    bareLogin (ofLogin login).text = Text.lowerFrom [] (bareLogin login) := by
  have htrimmed : Text.trimmed (accountSign :: Text.lowerFrom [] (bareLogin login)) =
      accountSign :: Text.lowerFrom [] (bareLogin login) := by
    refine Text.trimmed_eq_self (fun c hc => ?_) fun c hc => ?_
    · rw [← Option.some.inj hc]
      decide
    · cases hlower : Text.lowerFrom [] (bareLogin login) with
      | nil =>
        rw [hlower] at hc
        rw [← Option.some.inj hc]
        decide
      | cons d rest =>
        rw [hlower, List.getLast?_cons_cons, ← hlower] at hc
        exact Text.isBlank_of_getLast?_lowerFrom (fun _ => isBlank_of_getLast?_bareLogin) hc
  rw [bareLogin, ofLogin, String.toList_ofList, htrimmed, List.dropWhile_cons_of_pos (by simp)]
  exact Text.dropWhile_eq_self_of_head? fun c hc => decide_eq_false (head?_lowerFrom_bareLogin hc)

/-- **An account's text is a spelling of its login.** -/
theorem ofLogin_text (login : String) : ofLogin (ofLogin login).text = ofLogin login := by
  rw [ofLogin, bareLogin_text_ofLogin, Text.lowerFrom_lowerFrom]
  rfl

/-- A contact's text is a spelling of it. -/
theorem ofContact_text (contact : String) :
    ofContact (ofContact contact).text = ofContact contact := by
  simp only [ofContact, Text.lowerCase, Text.trim, String.toList_ofList, mk.injEq]
  rw [Text.trimmed_lowerFrom [] (Text.trimmed_trimmed _), Text.lowerFrom_lowerFrom]

/-- The identity of a login, taken for a text, is itself. -/
theorem ofText_ofLogin (login : String) : ofText (ofLogin login).text = ofLogin login := by
  rw [ofText, isLogin_text_ofLogin, if_pos rfl, ofLogin_text]

theorem isLogin_text_of_login?_eq_none (h : i.login? = none) :
    Authorship.isLogin i.text = false := by
  rw [login?] at h
  rw [Authorship.isLogin]
  cases htext : i.text.toList with
  | nil => rfl
  | cons c rest => simpa [htext] using h

end Identity

namespace Authorship

/-- The identity of the account that a token gives the login of, or that its look-up found. -/
inductive FromAccount (answers : Answers) (token : String) : Identity → Prop where
  /-- the token begins with an at sign -/
  | login : isLogin token = true → FromAccount answers token (.ofLogin token)
  /-- a look-up of the token returned a login -/
  | found {login : String} {others : List String} : isLogin token = false →
      answers (.users (searchKey token)) (.ok (login :: others)) →
      FromAccount answers token (.ofLogin login)

/-- An identity that comes from an account has its sign. -/
theorem FromAccount.isLogin_text (h : FromAccount answers token i) : isLogin i.text = true := by
  cases h with
  | login | found => exact Identity.isLogin_text_ofLogin _

/-- **An identity begins with an at sign exactly if it is that of an account.** -/
theorem Resolves.isLogin_text_iff (h : Resolves answers token i)
    (hmem : token ∈ AuthorList.tokens list) :
    isLogin i.text = true ↔ FromAccount answers token i := by
  refine ⟨fun hlogin => ?_, FromAccount.isLogin_text⟩
  cases h with
  | login h => exact .login h
  | account hcontact hfound => exact .found hcontact hfound
  | unknown hcontact | failed hcontact =>
    rw [Identity.isLogin_text_of_login?_eq_none (login?_contact hmem hcontact)] at hlogin
    cases hlogin

theorem Resolves.ofText_text (h : Resolves answers token i)
    (hmem : token ∈ AuthorList.tokens list) : Identity.ofText i.text = i := by
  cases h with
  | login | account => exact Identity.ofText_ofLogin _
  | unknown hcontact | failed hcontact =>
    rw [Identity.ofText, Identity.isLogin_text_of_login?_eq_none (login?_contact hmem hcontact),
      if_neg Bool.false_ne_true, Identity.ofContact_text]

end Authorship

/-! ## Authors -/

/-- Authors are in canonical form, and their texts say which of them are accounts. -/
structure Canonical (answers : Answers) (list : String) (r : Roster) : Prop where
  /-- every author is what its text stands for -/
  text : ∀ i ∈ r, Identity.ofText i.text = i
  /-- every author is what a token stands for -/
  token : ∀ i ∈ r, ∃ token ∈ AuthorList.tokens list, Authorship.Resolves answers token i
  /-- an author begins with an at sign if it is the account of a token -/
  account : ∀ i ∈ r, Authorship.isLogin i.text = true ↔
    ∃ token ∈ AuthorList.tokens list, Authorship.FromAccount answers token i
  /-- what a token stands for begins with an at sign if it is the account of that very token -/
  resolved : ∀ token ∈ AuthorList.tokens list, ∀ i, Authorship.Resolves answers token i →
    (Authorship.isLogin i.text = true ↔ Authorship.FromAccount answers token i)

/-- Whatever the replies, the identities on an author list are canonical. -/
theorem canonical_of_yields (h : (Authorship.authorsOf list).Yields answers r) :
    Canonical answers list r := by
  obtain ⟨hnamed, -⟩ := Authorship.authorsOf_yields h
  refine ⟨fun i hi => ?_, hnamed, fun i hi => ⟨fun hlogin => ?_, ?_⟩, fun token htoken i hres =>
    hres.isLogin_text_iff htoken⟩
  · obtain ⟨token, htoken, hres⟩ := hnamed i hi
    exact hres.ofText_text htoken
  · obtain ⟨token, htoken, hres⟩ := hnamed i hi
    exact ⟨token, htoken, (hres.isLogin_text_iff htoken).1 hlogin⟩
  · rintro ⟨token, -, haccount⟩
    exact haccount.isLogin_text

/-- **Identities are canonical.** The identity of a login begins with an at sign and is the identity
of its own text. From any session, whatever was looked up before, the authors of a list can be
found, and they are in canonical form however that happens. -/
theorem identities_canonical {σ : Type} (forge : Forge σ) (list : String) :
    (∀ login, Identity.ofLogin (Identity.ofLogin login).text = Identity.ofLogin login ∧
      (Identity.ofLogin login).text.toList.head? = some '@') ∧
    ∀ s : Session σ, (∃ t r s', RunsTo forge s (Authorship.authorsOf list) t r s') ∧
      ∀ t r s', RunsTo forge s (Authorship.authorsOf list) t r s' → Canonical t.answers list r := by
  refine ⟨fun login => ⟨Identity.ofLogin_text login, ?_⟩, fun s => ⟨?_, fun t r s' h => ?_⟩⟩
  · simp [Identity.ofLogin, Identity.accountSign]
  · exact (Authorship.authorsOf_live list).ends forge (.refl _) s
  · exact canonical_of_yields (h.ends.yields t.meets_answers)

/-- Alice is named by her login, Bob is found, and Carol is not. -/
theorem identities_canonical_three : ∃ t s',
    RunsTo (Forge.steady oneAddress) (.start ())
      (Authorship.authorsOf "Alice (@Alice), Bob <bob@example.org>, Carol <Carol@example.org>") t
      (.ofList [⟨"@alice"⟩, ⟨"@bob"⟩, ⟨"carol@example.org"⟩]) s' ∧
    Canonical t.answers "Alice (@Alice), Bob <bob@example.org>, Carol <Carol@example.org>"
      (.ofList [⟨"@alice"⟩, ⟨"@bob"⟩, ⟨"carol@example.org"⟩]) := by
  obtain ⟨-, hruns⟩ := identities_canonical (Forge.steady oneAddress)
    "Alice (@Alice), Bob <bob@example.org>, Carol <Carol@example.org>"
  obtain ⟨t, h⟩ := Forge.Program.runsTo_run (Forge.steady oneAddress)
    (Authorship.authorsOf_live "Alice (@Alice), Bob <bob@example.org>, Carol <Carol@example.org>")
    (.start ())
  have hauthors : ((Authorship.authorsOf
      "Alice (@Alice), Bob <bob@example.org>, Carol <Carol@example.org>").run
        (Forge.steady oneAddress) (.start ())).1 =
      .ofList [⟨"@alice"⟩, ⟨"@bob"⟩, ⟨"carol@example.org"⟩] := by
    decide +kernel
  rw [hauthors] at h
  exact ⟨t, _, h, (hruns _).2 t _ _ h⟩

end ProposalGate
