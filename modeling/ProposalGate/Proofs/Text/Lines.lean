import Mathlib.Data.List.Basic
import ProposalGate.Proofs.Text.Blank

/-!
# Lines and the pieces between line feeds

The lines of a text are its pieces between line feeds (`lines_eq`): all but the last lose a carriage
return at their end, and the last is a line only if there is something to it. Whether a line ends in
a carriage return makes no difference to what it is without the blanks at its end
(`trimEnd_withoutReturn`), so a line can be recognised by that form in its piece already
(`exists_mem_of_mem_linesOfPieces`).
-/

namespace ProposalGate.Text

variable {cs line rest : List Char} {pieces : List (List Char)}

/-- A line without the carriage return that ends it. -/
def withoutReturn (line : List Char) : List Char :=
  (dropReturn line.reverse).reverse

/-- The lines that pieces between line feeds amount to. -/
def linesOfPieces : List (List Char) → List (List Char)
  | [] => []
  | [last] => if last.isEmpty then [] else [last]
  | piece :: pieces => withoutReturn piece :: linesOfPieces pieces

/-- A piece that is not the last is a line, whatever follows. -/
theorem linesOfPieces_cons (line : List Char) (h : pieces ≠ []) :
    linesOfPieces (line :: pieces) = withoutReturn line :: linesOfPieces pieces := by
  cases pieces with
  | nil => exact absurd rfl h
  | cons => rfl

/-- Lines are the pieces between line feeds, of which an empty last one does not count. -/
theorem linesFrom_eq (line cs : List Char) :
    linesFrom line cs = linesOfPieces (cs.splitOnPPrepend (· == '\n') line) := by
  induction cs generalizing line with
  | nil => simp [linesFrom, linesOfPieces]
  | cons c rest ih =>
    rw [linesFrom]
    by_cases hc : c = '\n'
    · rw [if_pos hc, ih, List.splitOnPPrepend_cons_pos (by simp [hc]),
        linesOfPieces_cons _ (List.splitOnP_ne_nil _ _), withoutReturn, List.reverse_reverse]
      rfl
    · rw [if_neg hc, ih, List.splitOnPPrepend_cons_neg (by simp [hc])]

/-- **The lines of a text** are its pieces between line feeds. -/
theorem lines_eq (cs : List Char) : lines cs = linesOfPieces (cs.splitOn '\n') :=
  linesFrom_eq [] cs

/-- What stands before a line feed is a line, and the others are those behind it. -/
theorem lines_append_cons (h : '\n' ∉ line) (rest : List Char) :
    lines (line ++ '\n' :: rest) = withoutReturn line :: lines rest := by
  rw [lines_eq, List.splitOn_append_cons_self_of_not_mem h,
    linesOfPieces_cons _ (List.splitOn_ne_nil _ _), ← lines_eq]

theorem lines_eq_singleton (h : '\n' ∉ line) (hne : line ≠ []) : lines line = [line] := by
  rw [lines_eq, List.splitOn_eq_singleton h, linesOfPieces, if_neg (by simpa using hne)]

/-- A carriage return at the end of a line is no part of it. -/
theorem withoutReturn_append_return (line : List Char) : withoutReturn (line ++ ['\r']) = line := by
  rw [withoutReturn, List.reverse_append]
  exact List.reverse_reverse line

theorem withoutReturn_eq_self (h : '\r' ∉ line) : withoutReturn line = line := by
  rw [withoutReturn]
  cases hline : line.reverse with
  | nil => exact (List.reverse_eq_nil_iff.1 hline).symm
  | cons c rest =>
    have hc : c ≠ '\r' := by
      rintro rfl
      exact h (List.mem_reverse.1 (hline ▸ List.mem_cons_self))
    rw [dropReturn.eq_2 _ (by simpa using hc), ← hline, List.reverse_reverse]

/-- Trimming takes a carriage return off as well. -/
theorem trimEnd_withoutReturn (line : List Char) : trimEnd (withoutReturn line) = trimEnd line := by
  rw [trimEnd, trimEnd, withoutReturn, List.reverse_reverse]
  congr 1
  cases line.reverse with
  | nil => rfl
  | cons c rest =>
    by_cases hc : c = '\r'
    · subst hc
      exact (List.dropWhile_cons_of_pos (by decide)).symm
    · rw [dropReturn.eq_2 _ (by simpa using hc)]

/-- Without the blanks at its end, every line is a piece. -/
theorem exists_mem_of_mem_linesOfPieces (h : line ∈ linesOfPieces pieces) :
    ∃ piece ∈ pieces, trimEnd line = trimEnd piece := by
  fun_induction linesOfPieces pieces with
  | case1 => cases h
  | case2 => cases h
  | case3 last =>
    obtain rfl := List.mem_singleton.1 h
    exact ⟨line, List.mem_cons_self, rfl⟩
  | case4 piece pieces _ ih =>
    rcases List.mem_cons.1 h with rfl | h
    · exact ⟨piece, List.mem_cons_self, trimEnd_withoutReturn piece⟩
    · obtain ⟨piece', hmem, htrim⟩ := ih h
      exact ⟨piece', List.mem_cons_of_mem _ hmem, htrim⟩

end ProposalGate.Text
