import Mathlib
import ProposalGate.Proofs.Identity
import ProposalGate.Proofs.Sorted
import ProposalGate.Proofs.Text.Blank

/-!
# Whose latest review approves

Reviews come in any order. Which one is the latest of an account is said here without sorting them:
it is the greatest by the time it was submitted and then by its place in the list
(`Review.Latest`). The approvers are the author and the accounts whose latest review approves
(`mem_approvers_iff_latest`), so a later review that does not approve takes an approval back.

It does so in whatever way the account's login is written in it: blanks around a login, at signs
before it and the case of its letters make no difference to the identity (`Identity.Spells`).
-/

namespace ProposalGate

variable {account signs letters : List Char} {login author : String} {i : Identity}
  {reviews : List Review} {r : Review} {n : ℕ}

/-! ## Spellings of a login -/

namespace Identity

/-- **A login written in some way**, given the account in lower case: its letters in any case, at
signs before them and blanks around it all. -/
inductive Spells (account : List Char) : String → Prop where
  | intro {before signs letters after : List Char} :
      (∀ c ∈ before, Text.isBlank c = true) → (∀ c ∈ after, Text.isBlank c = true) →
      (∀ c ∈ signs, c = accountSign) →
      (∀ c, letters.head? = some c → Text.isMark c = false) →
      (∀ c, letters.getLast? = some c → Text.isBlank c = false) →
      Text.lowerFrom [] letters = account →
      Spells account (String.ofList (before ++ (signs ++ letters ++ after)))

/-- There is nothing to trim off the letters of a login and the at signs before them. -/
theorem trimmed_signs_append (hsigns : ∀ c ∈ signs, c = accountSign)
    (hhead : ∀ c, letters.head? = some c → Text.isMark c = false)
    (hlast : ∀ c, letters.getLast? = some c → Text.isBlank c = false) :
    Text.trimmed (signs ++ letters) = signs ++ letters := by
  have hsign : ∀ c ∈ signs, Text.isBlank c = false := by
    intro c hc
    rw [hsigns c hc]
    decide
  refine Text.trimmed_eq_self (fun c hc => ?_) fun c hc => ?_
  · rw [List.head?_append, Option.or_eq_some_iff] at hc
    rcases hc with hc | ⟨-, hc⟩
    · exact hsign c (List.mem_of_head? hc)
    · exact (Text.isMark_eq_false_iff.1 (hhead c hc)).2
  · rw [List.getLast?_append, Option.or_eq_some_iff] at hc
    rcases hc with hc | ⟨-, hc⟩
    · exact hlast c hc
    · exact hsign c (List.mem_of_getLast? hc)

theorem dropWhile_signs_append (hsigns : ∀ c ∈ signs, c = accountSign)
    (hhead : ∀ c, letters.head? = some c → Text.isMark c = false) :
    (signs ++ letters).dropWhile (· = accountSign) = letters := by
  rw [List.dropWhile_append_of_pos fun c hc => decide_eq_true (hsigns c hc)]
  exact Text.dropWhile_eq_self_of_head? fun c hc =>
    decide_eq_false (Text.isMark_eq_false_iff.1 (hhead c hc)).1

/-- **However a login is written**, its identity is that of the account. -/
theorem Spells.ofLogin_eq (h : Spells account login) :
    ofLogin login = ⟨String.ofList (accountSign :: account)⟩ := by
  obtain @⟨before, signs, letters, after, hbefore, hafter, hsigns, hhead, hlast, hletters⟩ := h
  have hbare : bareLogin (String.ofList (before ++ (signs ++ letters ++ after))) = letters := by
    rw [bareLogin, String.toList_ofList, Text.trimmed_blanks_append hbefore,
      Text.trimmed_append_blanks hafter, trimmed_signs_append hsigns hhead hlast,
      dropWhile_signs_append hsigns hhead]
  rw [ofLogin, hbare, hletters]

end Identity

/-! ## The latest review -/

namespace Review

/-- When a review was submitted. A review without a time comes before all others. -/
def time (r : Review) : WithBot (ℤ ×ₗ ℕ) :=
  match r.submittedAt with
  | some t => ((toLex (t.seconds, t.nanoseconds) : ℤ ×ₗ ℕ) : WithBot (ℤ ×ₗ ℕ))
  | none => ⊥

/-- How late a review is: by its time and then by its place in the list. -/
def rank (r : Review) (n : ℕ) : WithBot (ℤ ×ₗ ℕ) ×ₗ ℕ :=
  toLex (r.time, n)

/-- Whether a review is by an account. One without a login is by nobody. -/
def IsBy (r : Review) (i : Identity) : Prop :=
  Text.isBlankText r.reviewer = false ∧ r.identity = i

/-- **The latest review of an account.** -/
structure Latest (i : Identity) (reviews : List Review) (n : ℕ) (r : Review) : Prop where
  /-- it is in this place of the list -/
  getElem? : reviews[n]? = some r
  /-- it is by the account -/
  isBy : r.IsBy i
  /-- no other review by the account is later -/
  greatest : ∀ m (s : Review), reviews[m]? = some s → s.IsBy i → s.rank m ≤ r.rank n

/-- A review without a time comes before all that have one. -/
theorem notAfter_iff (a b : Review) : a.notAfter b = true ↔ a.time ≤ b.time := by
  rw [notAfter, time, time]
  rcases a.submittedAt with _ | s
  · simp
  · rcases b.submittedAt with _ | t
    · simp
    · simp [Instant.notAfter, Prod.Lex.toLex_le_toLex]

theorem sortedBy_mergeSort_notAfter (reviews : List Review) :
    SortedBy time reviews (reviews.mergeSort notAfter) :=
  sortedBy_mergeSort notAfter_iff reviews

/-- In the order in which the reviews were submitted, the last one by an account is the latest. -/
theorem lastState?_ordered_eq_some_iff {state : ReviewState} :
    lastState? i (ordered reviews) = some state ↔
      ∃ n r, Latest i reviews n r ∧ r.state = state := by
  have hby : ∀ s : Review, decide (s.hasReviewer = true ∧ decide (s.identity = i) = true) = true ↔
      s.IsBy i := by
    intro s
    simp [hasReviewer, IsBy]
  rw [lastState?, ordered, ← List.filter_reverse, List.find?_filter, Option.map_eq_some_iff]
  constructor
  · rintro ⟨r, hr, rfl⟩
    obtain ⟨hr, n, hn, hgreatest⟩ :=
      (sortedBy_mergeSort_notAfter reviews).find?_reverse_eq_some_iff.1 hr
    exact ⟨n, r, ⟨hn, (hby r).1 hr, fun m s hm hs => hgreatest m s hm ((hby s).2 hs)⟩, rfl⟩
  · rintro ⟨n, r, hr, rfl⟩
    refine ⟨r, (sortedBy_mergeSort_notAfter reviews).find?_reverse_eq_some_iff.2
      ⟨(hby r).2 hr.isBy, n, hr.getElem?, fun m s hm hs => ?_⟩, rfl⟩
    exact hr.greatest m s hm ((hby s).1 hs)

/-- An account is among those who approve exactly if its last state is an approval. -/
theorem mem_approving_iff : i ∈ approving reviews ↔ lastState? i reviews = some .approved := by
  rw [approving, List.mem_filter, decide_eq_true_eq, and_iff_right_iff_imp]
  intro h
  obtain ⟨r, hr, -⟩ := Option.map_eq_some_iff.1 h
  have hi : r.identity = i := by simpa using List.find?_some hr
  rw [← hi]
  exact List.mem_map_of_mem (List.mem_reverse.1 (List.mem_of_find?_eq_some hr))

end Review

/-- **An account approves** a pull request of an author: it is the author's, or its latest review
approves. -/
def Approves (author : String) (reviews : List Review) (i : Identity) : Prop :=
  Text.isBlankText author = false ∧ i = .ofLogin author ∨
    ∃ n r, Review.Latest i reviews n r ∧ r.state = .approved

/-- The roster of approvers has the accounts that approve, and no others. -/
theorem mem_approvers_iff_approves : i ∈ approvers author reviews ↔ Approves author reviews i := by
  rw [mem_approvers_iff, Review.mem_approving_iff, Review.lastState?_ordered_eq_some_iff, Approves]

/-- **Who approves**: the author, and every account whose latest review approves. So a review that
does not approve and is later than all approvals by the same account, however its login is written
in the one or the other, leaves the account among the approvers only as the author. -/
theorem mem_approvers_iff_latest (author : String) (reviews : List Review) :
    (∀ i, i ∈ approvers author reviews ↔
      Text.isBlankText author = false ∧ i = .ofLogin author ∨
        ∃ n r, Review.Latest i reviews n r ∧ r.state = .approved) ∧
    ∀ account login n (r : Review), Identity.Spells account login →
      Identity.Spells account r.reviewer → reviews[n]? = some r →
      Text.isBlankText r.reviewer = false → r.state ≠ .approved →
      (∀ m (s : Review), reviews[m]? = some s → s.IsBy (.ofLogin login) → s.state = .approved →
        s.rank m < r.rank n) →
      .ofLogin login ∈ approvers author reviews →
        Text.isBlankText author = false ∧ Identity.ofLogin login = .ofLogin author := by
  refine ⟨fun i => mem_approvers_iff_approves, ?_⟩
  intro account login n r hlogin hreviewer hn hblank hstate hlater hmem
  rcases mem_approvers_iff_approves.1 hmem with hauthor | ⟨m, s, hs, happroved⟩
  · exact hauthor
  · -- the account's latest review would be one that approves, and before the one that does not
    have hby : r.IsBy (.ofLogin login) :=
      ⟨hblank, hreviewer.ofLogin_eq.trans hlogin.ofLogin_eq.symm⟩
    have hlt := hlater m s hs.getElem? hs.isBy happroved
    exact absurd hlt (not_lt.2 (hs.greatest n r hn hby))

/-- Reviews by one account, the latest of them first. -/
def revokedReviews : List Review := [
  ⟨" @BOB ", .changesRequested, some ⟨1704110700, 0⟩⟩,
  ⟨"bob", .approved, some ⟨1704110460, 0⟩⟩,
  ⟨"Bob", .approved, none⟩]

/-- Both approvals are taken back. -/
theorem approvers_revokedReviews :
    .ofLogin "alice" ∈ approvers "alice" revokedReviews ∧
      .ofLogin "bob" ∉ approvers "alice" revokedReviews := by
  obtain ⟨hiff, hrevoked⟩ := mem_approvers_iff_latest "alice" revokedReviews
  have hblank : ∀ c ∈ [' '], Text.isBlank c = true := List.forall_mem_singleton.2 (by decide)
  have hbob : Identity.Spells "bob".toList "bob" := by
    refine @Identity.Spells.intro _ [] [] "bob".toList [] (List.forall_mem_nil _)
      (List.forall_mem_nil _) (List.forall_mem_nil _) ?_ ?_ (by decide +kernel)
    · rintro c ⟨⟩
      decide
    · rintro c ⟨⟩
      decide
  have hBOB : Identity.Spells "bob".toList " @BOB " := by
    refine @Identity.Spells.intro _ [' '] ['@'] "BOB".toList [' '] hblank hblank
      (List.forall_mem_singleton.2 rfl) ?_ ?_ (by decide +kernel)
    · rintro c ⟨⟩
      decide
    · rintro c ⟨⟩
      decide
  have hlater : ∀ m (s : Review), revokedReviews[m]? = some s → s.IsBy (.ofLogin "bob") →
      s.state = .approved → s.rank m < Review.rank ⟨" @BOB ", .changesRequested,
        some ⟨1704110700, 0⟩⟩ 0 := by
    rintro (_ | _ | _ | m) s hs - happroved
    · obtain rfl := Option.some.inj hs
      cases happroved
    · obtain rfl := Option.some.inj hs
      simp [Review.rank, Review.time, Prod.Lex.toLex_lt_toLex]
    · obtain rfl := Option.some.inj hs
      simp [Review.rank, Review.time, Prod.Lex.toLex_lt_toLex]
    · cases hs
  refine ⟨(hiff _).2 (.inl ⟨by decide, rfl⟩), fun hmem => ?_⟩
  obtain ⟨-, heq⟩ := hrevoked _ _ 0 _ hbob hBOB rfl (by decide) (by decide) hlater hmem
  exact absurd heq (by decide +kernel)

end ProposalGate
