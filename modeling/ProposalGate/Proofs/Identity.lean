import ProposalGate.Authorship
import ProposalGate.Proofs.Text.LowerCase
import ProposalGate.Review

/-!
# Accounts and contacts

The identity of an account has a login, the identity of a contact has none (`login?_ofLogin`,
`login?_contact`), so no contact is ever taken for an account. A login is that of one identity
(`account`), and accounts come in the order of their logins. All approvers are accounts. What
the author list names by a contact that could not be looked up is therefore nobody who approves
(`contact_not_mem_approvers`).
-/

namespace ProposalGate

variable {list token login author : String} {reviews : List Review} {i : Identity}

namespace Identity

/-- The identity that has a login. -/
def account (login : String) : Identity :=
  ⟨String.ofList (accountSign :: login.toList)⟩

/-- A login is that of one identity. -/
theorem login?_eq_some_iff : i.login? = some login ↔ i = account login := by
  obtain ⟨text⟩ := i
  rw [account, mk.injEq, ← String.toList_inj, String.toList_ofList, login?]
  cases htext : text.toList with
  | nil => simp
  | cons c rest =>
    rw [List.cons.injEq]
    by_cases hc : c = accountSign
    · simp [hc, ← String.toList_inj]
    · simp [hc]

/-- Accounts come in the order of their logins. -/
theorem account_lt_account {other : String} : account login < account other ↔ login < other := by
  change (account login).text < (account other).text ↔ _
  rw [String.lt_iff, String.lt_iff, account, account, String.toList_ofList, String.toList_ofList,
    List.cons_lt_cons_iff]
  simp

theorem login?_ofLogin :
    (ofLogin login).login? = some (String.ofList (Text.lowerFrom [] (bareLogin login))) := by
  simp [login?, ofLogin]

theorem login?_eq_none (h : ∀ rest, i.text.toList ≠ accountSign :: rest) : i.login? = none := by
  rw [login?]
  split
  · next c rest htext =>
    refine if_neg fun hc => h rest ?_
    rw [htext, hc]
  · rfl

end Identity

namespace AuthorList

/-- A token begins with a character that is no blank. -/
theorem toList_of_mem_tokens (h : token ∈ tokens list) :
    ∃ c rest, token.toList = c :: rest ∧ Text.isBlank c = false := by
  obtain ⟨cs, hcs, rfl⟩ := List.mem_map.1 h
  obtain ⟨hgroup, hne⟩ := List.mem_filter.1 hcs
  obtain ⟨group, -, rfl⟩ := List.mem_map.1 hgroup
  cases htrimmed : Text.trimmed group with
  | nil => simp [htrimmed] at hne
  | cons c rest => exact ⟨c, rest, String.toList_ofList, Text.isBlank_of_trimmed_eq_cons htrimmed⟩

/-- There are no blanks around a token. -/
theorem trimmed_of_mem_tokens (h : token ∈ tokens list) :
    Text.trimmed token.toList = token.toList := by
  obtain ⟨cs, hcs, rfl⟩ := List.mem_map.1 h
  obtain ⟨group, -, rfl⟩ := List.mem_map.1 (List.mem_filter.1 hcs).1
  rw [String.toList_ofList, Text.trimmed_trimmed]

end AuthorList

namespace Authorship

/-- **A contact has no login**, although its text is trimmed and put in lower case twice. -/
theorem login?_contact (h : token ∈ AuthorList.tokens list) (hcontact : isLogin token = false) :
    (Identity.ofContact (searchKey token)).login? = none := by
  obtain ⟨c, rest, htoken, hblank⟩ := AuthorList.toList_of_mem_tokens h
  have hc : Text.isMark c = false := by
    refine Text.isMark_eq_false_iff.2 ⟨?_, hblank⟩
    simpa [isLogin, htoken, Identity.accountSign] using hcontact
  -- the first character, through two rounds of trimming and lower case
  obtain ⟨rest₁, h₁⟩ := Text.trimmed_cons rest hblank
  obtain ⟨d, rest₂, h₂, hd⟩ := Text.lowerFrom_cons [] rest₁ hc
  obtain ⟨rest₃, h₃⟩ := Text.trimmed_cons rest₂ (Text.isMark_eq_false_iff.1 hd).2
  obtain ⟨e, rest₄, h₄, he⟩ := Text.lowerFrom_cons [] rest₃ hd
  refine Identity.login?_eq_none fun rest₅ htext => (Text.isMark_eq_false_iff.1 he).1 ?_
  simp only [Identity.ofContact, searchKey, Text.lowerCase, Text.trim, String.toList_ofList, htoken,
    h₁, h₂, h₃, h₄] at htext
  exact (List.cons.inj htext).1

end Authorship

/-! ## Approvers -/

theorem mem_approvers_iff : i ∈ approvers author reviews ↔
    Text.isBlankText author = false ∧ i = .ofLogin author ∨
      i ∈ Review.approving (Review.ordered reviews) := by
  rw [approvers]
  cases Text.isBlankText author <;> simp

/-- The author approves, whatever the reviews. -/
theorem approvers_mono (h : i ∈ approvers author []) : i ∈ approvers author reviews := by
  rw [mem_approvers_iff] at h ⊢
  rcases h with h | h
  · exact .inl h
  · simp [Review.approving, Review.ordered] at h

/-- Only accounts approve. -/
theorem exists_login_of_mem_approvers (h : i ∈ approvers author reviews) :
    ∃ login, i = .ofLogin login := by
  rcases mem_approvers_iff.1 h with ⟨-, rfl⟩ | h
  · exact ⟨author, rfl⟩
  · obtain ⟨r, -, rfl⟩ := List.mem_map.1 (List.mem_filter.1 h).1
    exact ⟨r.reviewer, rfl⟩

/-- **No contact approves.** -/
theorem contact_not_mem_approvers (h : token ∈ AuthorList.tokens list)
    (hcontact : Authorship.isLogin token = false) :
    .ofContact (Authorship.searchKey token) ∉ approvers author reviews := by
  intro happroves
  -- the contact would be the identity of an account, and have a login
  obtain ⟨login, heq⟩ := exists_login_of_mem_approvers happroves
  have hnone := Authorship.login?_contact h hcontact
  rw [heq, Identity.login?_ofLogin] at hnone
  exact absurd hnone (by simp)

end ProposalGate
