/-!
# Changed files

One entry of the comparison of two commits: where a file is now, where it was before if it was
moved, and what happened to it. A forge knows more kinds of change than the rules do; `ofName?`
maps the others onto the four.
-/

namespace ProposalGate

/-- What happened to a file between base and head. -/
inductive ChangeStatus where
  /-- the file is new -/
  | added
  /-- the file is in both commits under one path -/
  | modified
  /-- the file is gone -/
  | removed
  /-- the file was moved -/
  | renamed
  deriving DecidableEq, Repr

namespace ChangeStatus

/-- The status a forge means. A copied file is a new file; a file whose mode changed, or nothing
at all, counts as modified. -/
def ofName? : String → Option ChangeStatus
  | "added" | "copied" => some .added
  | "modified" | "changed" | "unchanged" => some .modified
  | "removed" => some .removed
  | "renamed" => some .renamed
  | _ => none

/-- The words by which a forge means a status. -/
def words : ChangeStatus → List String
  | .added => ["added", "copied"]
  | .modified => ["modified", "changed", "unchanged"]
  | .removed => ["removed"]
  | .renamed => ["renamed"]

/-- A forge means a status by its words and by no others. -/
theorem ofName?_eq_some_iff {word : String} {s : ChangeStatus} :
    ofName? word = some s ↔ word ∈ s.words := by
  rw [ofName?.eq_def]
  split <;> cases s <;> simp_all [words]

/-- The name of a status. -/
def name : ChangeStatus → String
  | .added => "added"
  | .modified => "modified"
  | .removed => "removed"
  | .renamed => "renamed"

end ChangeStatus

/-- A changed file. -/
structure Change where
  /-- the path at head -/
  path : String
  /-- the earlier path, if the forge gives one -/
  previousPath : Option String
  /-- what happened -/
  status : ChangeStatus
  deriving DecidableEq, Repr

/-- The path the file had at base: only a move makes the earlier path count. -/
def Change.basePath (c : Change) : String :=
  match c.status, c.previousPath with
  | .renamed, some previous => previous
  | _, _ => c.path

/-- **Where a file was at base.** -/
inductive Change.WasAt (c : Change) : String → Prop where
  /-- a file that was moved from a path was there -/
  | moved {previous : String} : c.status = .renamed → c.previousPath = some previous →
      WasAt c previous
  /-- a file that was not moved, or from no path that is known, was where it is -/
  | stayed : (c.status = .renamed → c.previousPath = none) → WasAt c c.path

/-- A file was at its base path, and nowhere else. -/
theorem Change.wasAt_iff {c : Change} {path : String} : c.WasAt path ↔ path = c.basePath := by
  obtain ⟨now, previous?, status⟩ := c
  constructor
  · rintro (⟨hmoved, hprevious⟩ | hstayed)
    · cases hmoved
      cases hprevious
      rfl
    · cases status with
      | renamed =>
        cases hstayed rfl
        rfl
      | _ => rfl
  · rintro rfl
    cases status with
    | renamed =>
      cases previous? with
      | some previous => exact .moved rfl rfl
      | none => exact .stayed fun _ => rfl
    | _ => exact .stayed nofun

end ProposalGate
