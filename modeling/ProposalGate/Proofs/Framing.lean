import ProposalGate.Header
import ProposalGate.Proofs.Text.Lines

/-!
# What a header does not depend on

A header is what stands between two lines. A `Frame` is everything else in a document that has one: a
byte order mark, the blanks behind the two lines, which of the closing lines it is, how lines end,
and the text behind the header, if there is any. Whatever of it changes, the attributes stay the same
(`readWith_document`), because the block of lines does (`blockOf?_document`); only a header line that
ends in a carriage return of its own can be told from one that is ended by it.

A document that is no such thing has no attributes: its first line is not the opening one, or no line
behind it is a closing one (`blockOf?_eq_none`). None of this depends on how the block is read.
-/

namespace ProposalGate.Header

open Text (lines withoutReturn trimEnd)

variable {header rest : List (List Char)} {line blanks first : List Char}

/-! ## Lines -/

/-- Blanks behind a line that begins and ends the header's block do not count. -/
theorem trimEnd_opening_append (h : ∀ c ∈ blanks, Text.isBlank c = true) :
    trimEnd (openingLine ++ blanks) = openingLine := by
  rw [Text.trimEnd_append_blanks h]
  decide

/-- Blanks behind a closing line do not count. -/
theorem isClosing_append (hline : line ∈ closingLines) (h : ∀ c ∈ blanks, Text.isBlank c = true) :
    isClosing (line ++ blanks) = true := by
  have hself : ∀ line ∈ closingLines, isClosing line = true := by decide
  rw [isClosing, Text.trimEnd_append_blanks h]
  exact hself line hline

/-- The block ends before the first closing line. -/
theorem block?_append (h : ∀ line ∈ header, isClosing line = false) (hline : isClosing line = true) :
    block? (header ++ line :: rest) = some header := by
  induction header with
  | nil => rw [List.nil_append, block?, if_pos hline]
  | cons first others ih =>
    obtain ⟨hfirst, hothers⟩ := List.forall_mem_cons.1 h
    rw [List.cons_append, block?, if_neg (by simp [hfirst]), ih hothers]
    rfl

/-- Without a closing line there is no block. -/
theorem block?_eq_none (h : ∀ line ∈ rest, isClosing line = false) : block? rest = none := by
  induction rest with
  | nil => rfl
  | cons first others ih =>
    obtain ⟨hfirst, hothers⟩ := List.forall_mem_cons.1 h
    rw [block?, if_neg (by simp [hfirst]), ih hothers]
    rfl

/-! ## Documents with a header -/

/-- What surrounds the lines of a header. -/
structure Frame where
  /-- whether there is a byte order mark -/
  marked : Bool
  /-- whether a carriage return comes before every line feed -/
  returns : Bool
  /-- what stands behind the hyphens of the opening line -/
  openingBlanks : List Char
  /-- the closing line -/
  closing : List Char
  /-- what stands behind it -/
  closingBlanks : List Char
  /-- what follows the end of the closing line, if it has one -/
  body : Option (List Char)
  /-- only blanks stand behind the opening line -/
  openingBlanks_blank : ∀ c ∈ openingBlanks, Text.isBlank c = true ∧ c ≠ '\n'
  /-- it is one of the closing lines -/
  closing_mem : closing ∈ closingLines
  /-- only blanks stand behind it -/
  closingBlanks_blank : ∀ c ∈ closingBlanks, Text.isBlank c = true ∧ c ≠ '\n'

/-- A line of a header: it is unbroken, and none that would end the header. -/
def IsInner (line : List Char) : Prop :=
  '\n' ∉ line ∧ trimEnd line ∉ closingLines

instance (line : List Char) : Decidable (IsInner line) :=
  inferInstanceAs (Decidable ('\n' ∉ line ∧ trimEnd line ∉ closingLines))

namespace Frame

/-- The byte order mark, if there is one. -/
def mark (f : Frame) : List Char :=
  if f.marked then ['\uFEFF'] else []

/-- What ends a line. -/
def lineEnd (f : Frame) : List Char :=
  if f.returns then ['\r', '\n'] else ['\n']

/-- The document with some header lines. -/
def document (f : Frame) (header : List (List Char)) : String :=
  String.ofList (f.mark ++ (openingLine ++ f.openingBlanks ++ f.lineEnd ++
    (header.flatMap (· ++ f.lineEnd) ++
      (f.closing ++ f.closingBlanks ++ f.body.elim [] (f.lineEnd ++ ·)))))

/-- What is read of a line that ends as the lines of a document do. -/
def kept (f : Frame) (line : List Char) : List Char :=
  if f.returns then line else withoutReturn line

variable (f : Frame)

/-- An unbroken line with its end is the first line of a document. -/
theorem lines_append (h : '\n' ∉ line) (rest : List Char) :
    lines (line ++ f.lineEnd ++ rest) = f.kept line :: lines rest := by
  rw [lineEnd, kept]
  split
  · have hsplit : line ++ ['\r', '\n'] ++ rest = (line ++ ['\r']) ++ '\n' :: rest := by simp
    rw [hsplit, Text.lines_append_cons (by simp [h]), Text.withoutReturn_append_return]
  · rw [List.append_assoc, List.singleton_append, Text.lines_append_cons h]

/-- What is kept of a line that ends in another way differs only in the blanks behind it. -/
theorem trimEnd_kept (line : List Char) : trimEnd (f.kept line) = trimEnd line := by
  rw [kept]
  split
  · rfl
  · exact Text.trimEnd_withoutReturn line

/-- The lines of a header come first, as they are kept. -/
theorem lines_header (h : ∀ line ∈ header, '\n' ∉ line) (rest : List Char) :
    lines (header.flatMap (· ++ f.lineEnd) ++ rest) = header.map f.kept ++ lines rest := by
  induction header with
  | nil => rfl
  | cons first others ih =>
    obtain ⟨hfirst, hothers⟩ := List.forall_mem_cons.1 h
    rw [List.flatMap_cons, List.append_assoc, f.lines_append hfirst, ih hothers]
    rfl

/-- What comes last begins with a closing line. -/
theorem exists_lines_closing : ∃ line rest, isClosing line = true ∧
    lines (f.closing ++ f.closingBlanks ++ f.body.elim [] (f.lineEnd ++ ·)) = line :: rest := by
  have hclosing := isClosing_append f.closing_mem fun c hc => (f.closingBlanks_blank c hc).1
  have hplain : ∀ line ∈ closingLines, '\n' ∉ line ∧ line ≠ [] := by decide
  obtain ⟨hfeed, hne⟩ := hplain f.closing f.closing_mem
  have hline : '\n' ∉ f.closing ++ f.closingBlanks := by
    rw [List.mem_append, not_or]
    exact ⟨hfeed, fun hc => (f.closingBlanks_blank _ hc).2 rfl⟩
  cases f.body with
  | none =>
    refine ⟨f.closing ++ f.closingBlanks, [], hclosing, ?_⟩
    rw [Option.elim_none, List.append_nil]
    exact Text.lines_eq_singleton hline (by simp [hne])
  | some text =>
    refine ⟨f.kept (f.closing ++ f.closingBlanks), lines text, ?_, ?_⟩
    · rwa [isClosing, f.trimEnd_kept, ← isClosing]
    · rw [Option.elim_some, ← List.append_assoc, f.lines_append hline]

end Frame

/-- A document without its byte order mark. -/
def unmarked (document : List Char) : List Char :=
  if document.head? = some '\uFEFF' then document.drop 1 else document

theorem blockOf?_eq (document : List Char) : blockOf? document =
    match lines (unmarked document) with
    | first :: rest => if trimEnd first = openingLine then block? rest else none
    | [] => none :=
  rfl

/-- **The block of a header** is made of its lines, whatever the frame. -/
theorem blockOf?_document (f : Frame) (h : ∀ line ∈ header, IsInner line) :
    blockOf? (f.document header).toList = some (header.map f.kept) := by
  have hunmarked : ∀ cs, unmarked (f.mark ++ (openingLine ++ cs)) = openingLine ++ cs := by
    intro cs
    rw [Frame.mark]
    split <;> rfl
  have hopening : '\n' ∉ openingLine ++ f.openingBlanks := by
    rw [List.mem_append, not_or]
    exact ⟨by decide, fun hc => (f.openingBlanks_blank _ hc).2 rfl⟩
  have htrimmed := trimEnd_opening_append fun c hc => (f.openingBlanks_blank c hc).1
  have hinner : ∀ line ∈ header.map f.kept, isClosing line = false := by
    intro line hline
    obtain ⟨inner, hinner, rfl⟩ := List.mem_map.1 hline
    rw [isClosing, f.trimEnd_kept]
    simpa using (h inner hinner).2
  obtain ⟨closing, behind, hclosing, hlast⟩ := f.exists_lines_closing
  rw [blockOf?_eq, Frame.document, String.toList_ofList, List.append_assoc openingLine,
    List.append_assoc openingLine, hunmarked, ← List.append_assoc openingLine,
    ← List.append_assoc openingLine, f.lines_append hopening,
    f.lines_header fun line hline => (h line hline).1, hlast]
  simp only [f.trimEnd_kept, htrimmed, if_true]
  exact block?_append hinner hclosing

/-! ## Documents without a header -/

/-- A document whose first line is not the opening one, or that has no closing line behind it. -/
def Headless (document : List Char) : Prop :=
  ∀ first rest, (unmarked document).splitOn '\n' = first :: rest →
    trimEnd first ≠ openingLine ∨ ∀ line ∈ rest, trimEnd line ∉ closingLines

/-- A document without a header has no block. -/
theorem blockOf?_eq_none {document : List Char} (h : Headless document) :
    blockOf? document = none := by
  obtain ⟨first, rest, hpieces⟩ :=
    List.exists_cons_of_ne_nil (List.splitOn_ne_nil '\n' (unmarked document))
  have hnone := h first rest hpieces
  rw [blockOf?_eq, Text.lines_eq, hpieces]
  cases rest with
  | nil =>
    rw [Text.linesOfPieces]
    by_cases hempty : first.isEmpty
    · rw [if_pos hempty]
    · rw [if_neg hempty]
      exact ite_self none
  | cons second others =>
    rw [Text.linesOfPieces_cons _ (List.cons_ne_nil _ _)]
    dsimp only
    rw [Text.trimEnd_withoutReturn]
    split
    · next hopening =>
      -- every line behind the first is a piece without a closing line
      refine block?_eq_none fun line hline => ?_
      obtain ⟨piece, hpiece, htrim⟩ := Text.exists_mem_of_mem_linesOfPieces hline
      have hclosing := hnone.resolve_left (not_not_intro hopening) piece hpiece
      rw [isClosing, htrim]
      simpa using hclosing
    · rfl

/-! ## Attributes -/

/-- The attributes of a block of lines that is read in a given way. -/
def ofBlock (read? : List Char → Option Yaml.Value) (block : List (List Char)) : Header :=
  match read? (List.intercalate ['\n'] block) with
  | some value => ofValue value
  | none => empty

theorem readWith_of_blockOf? {read? : List Char → Option Yaml.Value} {document : String}
    {block : List (List Char)} (h : blockOf? document.toList = some block) :
    readWith read? document = ofBlock read? block := by
  rw [readWith, h]
  rfl

/-- Lines without carriage returns are kept as they stand. -/
theorem map_kept_eq_self (f : Frame) (h : ∀ line ∈ header, '\r' ∉ line) :
    header.map f.kept = header := by
  have hkept : ∀ line ∈ header, f.kept line = id line := fun line hline => by
    rw [Frame.kept, Text.withoutReturn_eq_self (h line hline), ite_self, id]
  rw [List.map_congr_left hkept, List.map_id]

/-- Two frames keep the same of header lines if their lines end alike or there is no carriage return
to tell them apart. -/
theorem map_kept_eq {f g : Frame} (h : f.returns = g.returns ∨ ∀ line ∈ header, '\r' ∉ line) :
    header.map f.kept = header.map g.kept := by
  rcases h with h | h
  · have hkept : f.kept = g.kept := by
      funext line
      rw [Frame.kept, Frame.kept, h]
    rw [hkept]
  · rw [map_kept_eq_self f h, map_kept_eq_self g h]

/-- **The attributes of a document depend on the lines of its header only.** However the block is
read, two documents with the same header lines have the same attributes, if their lines end alike or
no header line has a carriage return; without carriage returns they are those of the lines as they
stand. Documents without a header have none. -/
theorem readWith_document (read? : List Char → Option Yaml.Value) :
    (∀ (f g : Frame) header, (∀ line ∈ header, IsInner line) →
      (f.returns = g.returns ∨ ∀ line ∈ header, '\r' ∉ line) →
        readWith read? (f.document header) = readWith read? (g.document header)) ∧
      (∀ (f : Frame) header, (∀ line ∈ header, IsInner line) → (∀ line ∈ header, '\r' ∉ line) →
        readWith read? (f.document header) = ofBlock read? header) ∧
      ∀ document : String, Headless document.toList → readWith read? document = empty := by
  refine ⟨fun f g header hinner hends => ?_, fun f header hinner hreturn => ?_,
    fun document hheadless => ?_⟩
  · rw [readWith_of_blockOf? (blockOf?_document f hinner),
      readWith_of_blockOf? (blockOf?_document g hinner), map_kept_eq hends]
  · rw [readWith_of_blockOf? (blockOf?_document f hinner), map_kept_eq_self f hreturn]
  · rw [readWith, blockOf?_eq_none hheadless]

/-- A frame with nothing but the two lines, the second of them at the end of the document. -/
def Frame.plain : Frame where
  marked := false
  returns := false
  openingBlanks := []
  closing := "---".toList
  closingBlanks := []
  body := none
  openingBlanks_blank := by simp
  closing_mem := by decide
  closingBlanks_blank := by simp

/-- A frame with everything, and with a body that looks like a header. -/
def Frame.dotted : Frame where
  marked := true
  returns := true
  openingBlanks := [' ', '\t']
  closing := "...".toList
  closingBlanks := [' ']
  body := some "---\neip: 8\n---\n".toList
  openingBlanks_blank := by
    have hspace : Text.isBlank ' ' = true := by decide
    have htab : Text.isBlank '\t' = true := by decide
    simp [hspace, htab]
  closing_mem := by decide
  closingBlanks_blank := by
    have hspace : Text.isBlank ' ' = true := by decide
    simp [hspace]

/-- Some lines of a header, one of them with hyphens. -/
def headerLines : List (List Char) :=
  ["eip: 7".toList, "--- # title".toList, "status: Draft".toList]

/-- The two frames differ in everything, and the second header begins too late. -/
theorem readWith_document_dotted :
    ((∀ line ∈ headerLines, IsInner line) ∧ (∀ line ∈ headerLines, '\r' ∉ line) ∧
      read (Frame.dotted.document headerLines) = read (Frame.plain.document headerLines)) ∧
        Headless "# Title\n---\n".toList ∧ read "# Title\n---\n" = empty := by
  obtain ⟨hsame, -, hnone⟩ := readWith_document Yaml.read?
  have hinner : ∀ line ∈ headerLines, IsInner line := by decide
  have hreturn : ∀ line ∈ headerLines, '\r' ∉ line := by decide
  have hheadless : Headless "# Title\n---\n".toList := by
    intro first rest h
    have hpieces : (unmarked "# Title\n---\n".toList).splitOn '\n' =
        ["# Title".toList, "---".toList, []] := by
      decide
    obtain ⟨rfl, -⟩ := List.cons.inj (hpieces.symm.trans h)
    exact .inl (by decide)
  exact ⟨⟨hinner, hreturn, hsame _ _ _ hinner (.inr hreturn)⟩, hheadless, hnone _ hheadless⟩

end ProposalGate.Header
