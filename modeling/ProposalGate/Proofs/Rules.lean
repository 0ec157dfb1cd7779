import Mathlib.Tactic.Common
import ProposalGate.Rules

/-!
# When a change is accepted

Each rule is silent exactly under the condition stated here, and a change is accepted exactly if all
are (`judge_violations_eq_nil_iff`). The accepted proposal then is the one the rules describe.

What the rules say of any change, accepted or not, is the table `Row` (`judge_follows_table`). Its
rows for the two rules take numbers and statuses apart, so neither rule depends on what the other
one looks at.
-/

namespace ProposalGate.Rules

variable {c : Change} {base head : Proposal} {path : String}

theorem refusal?_eq_none_iff :
    refusal? c = none ↔ (∃ n, Policy.filenameNumber? c.path = some n) ∧ c.status ≠ .added := by
  rw [refusal?]
  cases Policy.filenameNumber? c.path with
  | none => simp
  | some n => by_cases hs : c.status = .added <;> simp [hs]

theorem numbering_eq_nil_iff :
    numbering path base head = [] ↔ head.filenameNumber = head.headerNumber ∧
      (base.headerNumber = head.headerNumber ∨ base.filenameNumber = head.headerNumber) := by
  rw [numbering]
  by_cases hself : head.filenameNumber = head.headerNumber
  · by_cases hbase : base.headerNumber = head.headerNumber ∨ base.filenameNumber = head.headerNumber
      <;> simp [hself, hbase]
  · simp [hself]

theorem status_eq_nil_iff :
    status path base head = [] ↔
      ∃ s ∈ Policy.editableStatuses, base.status = some s ∧ head.status = some s := by
  rw [status]
  by_cases hsame : head.status = base.status
  · cases hbase : base.status with
    | none => simp [hsame, hbase]
    | some s => by_cases hs : Policy.isEditable s <;> simp_all [Policy.isEditable]
  · simp only [ne_eq, hsame, not_false_eq_true, ↓reduceIte, List.cons_ne_self, false_iff]
    rintro ⟨s, -, hb, hh⟩
    exact hsame (hh.trans hb.symm)

theorem judge_violations_eq_nil_iff :
    (judge c base head).violations = [] ↔
      refusal? c = none ∧ numbering c.path base head = [] ∧ status c.path base head = [] := by
  rw [judge]
  cases refusal? c with
  | some v => simp [Verdict.refused]
  | none =>
    rw [← List.append_eq_nil_iff]
    by_cases h : numbering c.path base head ++ status c.path base head = []
    · simp [h]
    · simp [h, Verdict.refused]

/-- What is accepted is head, with the authors of base. -/
theorem judge_proposal (h : (judge c base head).violations = []) :
    (judge c base head).proposal = some (accepted base head) := by
  obtain ⟨hrefusal, hnumbering, hstatus⟩ := judge_violations_eq_nil_iff.1 h
  simp [judge, hrefusal, hnumbering, hstatus]

/-- What the rules say of one file is either that the proposal is accepted or what is wrong. -/
theorem judge_eq (c : Change) (base head : Proposal) :
    judge c base head = ⟨some (accepted base head), []⟩ ∨
      ∃ violations, violations ≠ [] ∧ judge c base head = .refused violations ∧
        ∀ v ∈ violations, refusal? c = some v ∨
          v ∈ numbering c.path base head ++ status c.path base head := by
  rw [judge]
  cases refusal? c with
  | some v => exact .inr ⟨[v], by simp, rfl, fun w hw => .inl (by simpa [eq_comm] using hw)⟩
  | none =>
    by_cases h : numbering c.path base head ++ status c.path base head = []
    · simp [h]
    · exact .inr ⟨_, h, by simp [h], fun v hv => .inr hv⟩

/-- What is wrong with a file is why it is refused, or what one of the rules finds. -/
theorem mem_violations_judge {v : Violation} (h : v ∈ (judge c base head).violations) :
    refusal? c = some v ∨ v ∈ numbering c.path base head ∨ v ∈ status c.path base head := by
  rcases judge_eq c base head with hjudge | ⟨violations, -, hjudge, hall⟩
  · rw [hjudge] at h
    cases h
  · rw [hjudge] at h
    exact (hall v h).imp_right List.mem_append.1

/-! ## The table of the rules -/

/-- **What the numbering rule finds**, from the numbers alone: those that header and file name carry
at base, and those that they carry at head. -/
inductive NumberRow (path : String) (baseHeader baseName headHeader headName : Option Nat) :
    List Violation → Prop where
  /-- header and file name agree on a number that one of them had at base -/
  | kept : headName = headHeader → headHeader = baseHeader ∨ headHeader = baseName →
      NumberRow path baseHeader baseName headHeader headName []
  /-- they agree on a number that neither of them had -/
  | changed : headName = headHeader → headHeader ≠ baseHeader → headHeader ≠ baseName →
      NumberRow path baseHeader baseName headHeader headName
        [.proposalNumberChanged path baseHeader headHeader]
  /-- they do not agree -/
  | mismatch : headName ≠ headHeader →
      NumberRow path baseHeader baseName headHeader headName
        [.headerFilenameMismatch path headName headHeader]

/-- **What the status rule finds**, from the status at base and the status at head alone. -/
inductive StatusRow (path : String) (base head : Option String) : List Violation → Prop where
  /-- the status stays one in which a proposal may be edited -/
  | kept {s : String} : head = base → base = some s → s ∈ Policy.editableStatuses →
      StatusRow path base head []
  /-- the status is another one -/
  | changed : head ≠ base → StatusRow path base head [.illegalStatusChange path base head]
  /-- the status stays one in which a proposal may not be edited, or stays missing -/
  | notEditable : head = base → (∀ s ∈ Policy.editableStatuses, base ≠ some s) →
      StatusRow path base head [.statusNotEditable path base]

/-- **What the rules say of a change.** The first two rows stop at the file. In the others both
rules are asked, and what they find is put together. -/
inductive Row (c : Change) (base head : Proposal) : Verdict → Prop where
  /-- the file name has no number -/
  | unnamed : Policy.filenameNumber? c.path = none →
      Row c base head ⟨none, [.invalidFilename c.path]⟩
  /-- the file is new -/
  | added {n : Nat} : Policy.filenameNumber? c.path = some n → c.status = .added →
      Row c base head ⟨none, [.newFileRequiresReview c.path]⟩
  /-- one of the rules finds something, or both do -/
  | refused {n : Nat} {numbers statuses : List Violation} :
      Policy.filenameNumber? c.path = some n → c.status ≠ .added →
      NumberRow c.path base.headerNumber base.filenameNumber head.headerNumber
        head.filenameNumber numbers →
      StatusRow c.path base.status head.status statuses → numbers ++ statuses ≠ [] →
      Row c base head ⟨none, numbers ++ statuses⟩
  /-- neither finds anything -/
  | accepted {n : Nat} : Policy.filenameNumber? c.path = some n → c.status ≠ .added →
      NumberRow c.path base.headerNumber base.filenameNumber head.headerNumber
        head.filenameNumber [] →
      StatusRow c.path base.status head.status [] →
      Row c base head
        ⟨some ⟨head.headerNumber, head.filenameNumber, head.status, base.authors, head.name⟩, []⟩

variable {violations : List Violation} {verdict : Verdict}

theorem numbering_eq_iff : numbering path base head = violations ↔
    NumberRow path base.headerNumber base.filenameNumber head.headerNumber head.filenameNumber
      violations := by
  constructor
  · rintro rfl
    rw [numbering]
    split
    · next hself => exact .mismatch hself
    · next hself =>
      have hself := Decidable.of_not_not hself
      split
      · next hbase => exact .kept hself (hbase.imp Eq.symm Eq.symm)
      · next hbase =>
        obtain ⟨hheader, hname⟩ := not_or.1 hbase
        exact .changed hself (Ne.symm hheader) (Ne.symm hname)
  · intro h
    cases h with
    | kept hself hbase =>
      exact numbering_eq_nil_iff.2 ⟨hself, hbase.imp Eq.symm Eq.symm⟩
    | changed hself hheader hname => simp [numbering, hself, hheader.symm, hname.symm]
    | mismatch hself => simp [numbering, hself]

theorem status_eq_iff : status path base head = violations ↔
    StatusRow path base.status head.status violations := by
  constructor
  · rintro rfl
    rw [status]
    split
    · next hsame => exact .changed hsame
    · next hsame =>
      have hsame := Decidable.of_not_not hsame
      split
      · next heditable =>
        obtain ⟨s, hs, hmem⟩ := (Option.any_eq_true _ _).1 heditable
        exact .kept hsame hs (by simpa [Policy.isEditable] using hmem)
      · next heditable =>
        refine .notEditable hsame fun s hs hbase => heditable ?_
        simpa [hbase, Policy.isEditable] using hs
  · intro h
    cases h with
    | kept hsame hbase hs => exact status_eq_nil_iff.2 ⟨_, hs, hbase, hsame.trans hbase⟩
    | changed hsame => simp [status, hsame]
    | notEditable hsame hbase =>
      have heditable : ¬ base.status.any Policy.isEditable = true := by
        rw [Option.any_eq_true]
        rintro ⟨s, hs, hmem⟩
        exact hbase s (by simpa [Policy.isEditable] using hmem) hs
      simp [status, hsame, heditable]

/-- The table has a row for every change. -/
theorem row_judge (c : Change) (base head : Proposal) : Row c base head (judge c base head) := by
  rw [judge]
  cases hname : Policy.filenameNumber? c.path with
  | none =>
    have hrefusal : refusal? c = some (.invalidFilename c.path) := by simp [refusal?, hname]
    rw [hrefusal]
    exact .unnamed hname
  | some n =>
    by_cases hadded : c.status = .added
    · have hrefusal : refusal? c = some (.newFileRequiresReview c.path) := by
        simp [refusal?, hname, hadded]
      rw [hrefusal]
      exact .added hname hadded
    · rw [refusal?_eq_none_iff.2 ⟨⟨n, hname⟩, hadded⟩]
      have hnumbers := numbering_eq_iff.1 (Eq.refl (numbering c.path base head))
      have hstatuses := status_eq_iff.1 (Eq.refl (status c.path base head))
      by_cases hnil : numbering c.path base head ++ status c.path base head = []
      · obtain ⟨hnumbering, hstatus⟩ := List.append_eq_nil_iff.1 hnil
        rw [hnumbering] at hnumbers
        rw [hstatus] at hstatuses
        simp only [hnumbering, hstatus]
        exact .accepted hname hadded hnumbers hstatuses
      · simp only [List.isEmpty_iff, hnil]
        exact .refused hname hadded hnumbers hstatuses hnil

/-- No change has two rows that say different things. -/
theorem Row.judge_eq (h : Row c base head verdict) : judge c base head = verdict := by
  cases h with
  | unnamed hname => simp [judge, refusal?, hname, Verdict.refused]
  | added hname hadded => simp [judge, refusal?, hname, hadded, Verdict.refused]
  | refused hname hadded hnumbers hstatuses hne =>
    have hrefusal := refusal?_eq_none_iff.2 ⟨⟨_, hname⟩, hadded⟩
    simp only [judge, hrefusal, numbering_eq_iff.2 hnumbers, status_eq_iff.2 hstatuses,
      List.isEmpty_iff, hne]
    rfl
  | accepted hname hadded hnumbers hstatuses =>
    have hrefusal := refusal?_eq_none_iff.2 ⟨⟨_, hname⟩, hadded⟩
    simp only [judge, hrefusal, numbering_eq_iff.2 hnumbers, status_eq_iff.2 hstatuses]
    rfl

/-- What is found in a change that is not refused at once is what the one rule finds and what the
other finds. -/
theorem violations_judge {numbers statuses : List Violation} (hrefusal : refusal? c = none)
    (hnumbers : NumberRow c.path base.headerNumber base.filenameNumber head.headerNumber
      head.filenameNumber numbers) (hstatuses : StatusRow c.path base.status head.status statuses) :
    (judge c base head).violations = numbers ++ statuses := by
  simp only [judge, hrefusal, numbering_eq_iff.2 hnumbers, status_eq_iff.2 hstatuses]
  split
  · next hnil => exact (List.isEmpty_iff.1 hnil).symm
  · rfl

/-- **The rules follow the table.** A verdict is what the table says, and accepts a proposal exactly
if nothing is found. Neither rule depends on what the other one looks at: whatever the statuses are,
what is found in the numbers is found, and the other way round. Who the authors at head are makes no
difference to anything. -/
theorem judge_follows_table (c : Change) (base head : Proposal) :
    (∀ verdict, judge c base head = verdict ↔ Row c base head verdict) ∧
      ((∃ p, (judge c base head).proposal = some p) ↔ (judge c base head).violations = []) ∧
      (∀ (before after : Option String) (numbers statuses : List Violation),
        refusal? c = none →
        NumberRow c.path base.headerNumber base.filenameNumber head.headerNumber
          head.filenameNumber numbers →
        StatusRow c.path before after statuses →
        (judge c { base with status := before } { head with status := after }).violations =
          numbers ++ statuses) ∧
      ∀ authors, judge c base { head with authors := authors } = judge c base head := by
  refine ⟨fun verdict => ⟨?_, Row.judge_eq⟩, ⟨?_, fun h => ⟨_, judge_proposal h⟩⟩, ?_,
    fun _ => rfl⟩
  · rintro rfl
    exact row_judge c base head
  · rintro ⟨p, hp⟩
    rcases judge_eq c base head with hjudge | ⟨violations, -, hjudge, -⟩
    · rw [hjudge]
    · rw [hjudge] at hp
      cases hp
  · intro before after numbers statuses hrefusal hnumbers hstatuses
    exact violations_judge hrefusal hnumbers hstatuses

/-- A draft with a number in its header. -/
def numberedDraft (headerNumber : Nat) : Proposal :=
  ⟨some headerNumber, some 12, some "draft", .empty, "Draft"⟩

/-- A header with another number and a change of the status are both found. -/
theorem judge_follows_table_both :
    (judge ⟨"EIPS/eip-12.md", none, .modified⟩ (numberedDraft 12)
      { numberedDraft 99 with status := some "review" }).violations =
        [.headerFilenameMismatch "EIPS/eip-12.md" (some 12) (some 99),
          .illegalStatusChange "EIPS/eip-12.md" (some "draft") (some "review")] := by
  obtain ⟨-, -, hboth, -⟩ := judge_follows_table ⟨"EIPS/eip-12.md", none, .modified⟩
    (numberedDraft 12) (numberedDraft 99)
  have hmismatch : some 12 ≠ some 99 := by decide
  have hchanged : some "review" ≠ some "draft" := by decide
  exact hboth (some "draft") (some "review") _ _ (by decide +kernel) (.mismatch hmismatch)
    (.changed hchanged)

end ProposalGate.Rules
