import Mathlib.Data.List.TakeWhile
import ProposalGate.Proofs.Rest.Comparison
import ProposalGate.Proofs.Text.Blank
import ProposalGate.Proofs.Text.Parts

/-!
# Which target the next page has

A header is written entry by entry, each with a target between angle brackets and its relation behind
it (`header`). The first entry that is marked as the next page is always found, and no other, because
nothing but a relation has quotes (`nextOfEntry?_unquoted`). But a target is cut where its commas and
semicolons are, as if the entry ended there or its parameters began, so what is found is only what is
left of it: what follows its last comma, up to the next semicolon (`remnant`). That is the target if it
has neither, and something else if it has (`next?_header`).
-/

namespace ProposalGate.Rest.Link

variable {cs front core closing : List Char}

/-! ## Headers -/

/-- Whether a character may stand in a target: it is printable, no quote and no angle bracket. The
characters of addresses are among these, those included that have a meaning of their own there. -/
def isTargetCharacter (c : Char) : Bool :=
  33 ≤ c.toNat && c.toNat < 127 && c ≠ '"' && c ≠ '<' && c ≠ '>'

/-- Whether a character may stand in a relation that is one word. -/
def isRelationCharacter (c : Char) : Bool :=
  33 ≤ c.toNat && c.toNat < 127 && c ≠ '"' && c ≠ ',' && c ≠ ';'

/-- An entry of a header. -/
structure Entry where
  /-- the address it links to -/
  target : String
  /-- what the target is to the page -/
  relation : String
  /-- the target could be an address -/
  target_chars : ∀ c ∈ target.toList, isTargetCharacter c = true
  /-- the relation is one word -/
  relation_chars : ∀ c ∈ relation.toList, isRelationCharacter c = true

namespace Entry

/-- Whether an entry links to the next page. -/
def isNext (e : Entry) : Bool :=
  e.relation = "next"

/-- An entry as it is written. -/
def text (e : Entry) : String :=
  "<" ++ e.target ++ ">; rel=\"" ++ e.relation ++ "\""

/-- The parameter of an entry, with the blank before it. -/
def parameter (e : Entry) : List Char :=
  ' ' :: 'r' :: 'e' :: 'l' :: '=' :: '"' :: (e.relation.toList ++ ['"'])

theorem toList_text (e : Entry) :
    e.text.toList = '<' :: (e.target.toList ++ '>' :: ';' :: e.parameter) := by
  simp [text, parameter]

end Entry

/-- A header with some entries. -/
def header (entries : List Entry) : String :=
  ", ".intercalate (entries.map Entry.text)

/-- What is left of a target that is cut at commas and semicolons: what follows its last comma, up to
the next semicolon. -/
def remnant (target : List Char) : List Char :=
  (target.reverse.takeWhile (· ≠ ',')).reverse.takeWhile (· ≠ ';')

/-! ## Targets -/

/-- Without a comma the target is read whole, up to a semicolon. -/
theorem remnant_of_not_mem (h : ',' ∉ cs) : remnant cs = cs.takeWhile (· ≠ ';') := by
  have hall : ∀ c ∈ cs.reverse, decide (c ≠ ',') = true := fun c hc =>
    decide_eq_true fun heq => h (heq ▸ List.mem_reverse.1 hc)
  rw [remnant, List.takeWhile_eq_self_iff.2 hall, List.reverse_reverse]

/-- Of a target with commas, what is before the last is lost. -/
theorem remnant_append_cons {before : List Char} (h : ',' ∉ cs) :
    remnant (before ++ ',' :: cs) = cs.takeWhile (· ≠ ';') := by
  have hall : ∀ c ∈ cs.reverse, decide (c ≠ ',') = true := fun c hc =>
    decide_eq_true fun heq => h (heq ▸ List.mem_reverse.1 hc)
  have hreverse : (before ++ ',' :: cs).reverse = cs.reverse ++ ',' :: before.reverse := by simp
  rw [remnant, hreverse, List.takeWhile_append_of_pos hall, List.takeWhile_cons_of_neg (by simp),
    List.append_nil, List.reverse_reverse]

/-- Nothing is cut off a target exactly if it has neither commas nor semicolons. -/
theorem remnant_eq_self_iff : remnant cs = cs ↔ ',' ∉ cs ∧ ';' ∉ cs := by
  constructor
  · intro h
    have hmem : ∀ c ∈ cs, c ≠ ',' ∧ c ≠ ';' := by
      intro c hc
      rw [← h] at hc
      refine ⟨?_, by simpa using List.mem_takeWhile_imp hc⟩
      have hlast := List.mem_reverse.1 (List.takeWhile_subset _ hc)
      simpa using List.mem_takeWhile_imp hlast
    exact ⟨fun hcomma => (hmem _ hcomma).1 rfl, fun hsemicolon => (hmem _ hsemicolon).2 rfl⟩
  · rintro ⟨hcomma, hsemicolon⟩
    rw [remnant_of_not_mem hcomma, List.takeWhile_eq_self_iff]
    exact fun c hc => decide_eq_true fun heq => hsemicolon (heq ▸ hc)

/-! ## Characters -/

theorem isBlank_of_printable {c : Char} (hlow : 33 ≤ c.toNat) (hhigh : c.toNat < 127) :
    Text.isBlank c = false := by
  simp only [Text.isBlank, Text.blankRanges, Text.Ranges.contains, List.any_cons, List.any_nil,
    Bool.or_false, Bool.or_eq_false_iff, Bool.and_eq_false_iff, decide_eq_false_iff_not]
  omega

/-- The characters of a target are visible ASCII without quotes and angle brackets. -/
theorem isTargetCharacter_iff {c : Char} : isTargetCharacter c = true ↔
    (33 ≤ c.toNat ∧ c.toNat < 127) ∧ c ≠ '"' ∧ c ≠ '<' ∧ c ≠ '>' := by
  simp only [isTargetCharacter, Bool.and_eq_true, decide_eq_true_eq, and_assoc]

/-- Those of a relation are visible ASCII without what would end a parameter. -/
theorem isRelationCharacter_iff {c : Char} : isRelationCharacter c = true ↔
    (33 ≤ c.toNat ∧ c.toNat < 127) ∧ c ≠ '"' ∧ c ≠ ',' ∧ c ≠ ';' := by
  simp only [isRelationCharacter, Bool.and_eq_true, decide_eq_true_eq, and_assoc]

/-! ## What is found in an entry -/

/-- Of a target the blanks before it and the brackets around it are taken away. -/
theorem bare_append {blanks opening : List Char} (hblanks : ∀ c ∈ blanks, Text.isBlank c = true)
    (hopening : ∀ c ∈ opening, c = '<') (hcore : ∀ c ∈ core, isTargetCharacter c = true)
    (hclosing : ∀ c ∈ closing, c = '>') :
    bare (blanks ++ (opening ++ (core ++ closing))) = String.ofList core := by
  have hvisible : ∀ c ∈ opening ++ (core ++ closing), Text.isBlank c = false := by
    intro c hc
    rcases List.mem_append.1 hc with hc | hc
    · rw [hopening c hc]
      decide
    · rcases List.mem_append.1 hc with hc | hc
      · obtain ⟨⟨hlow, hhigh⟩, -⟩ := isTargetCharacter_iff.1 (hcore c hc)
        exact isBlank_of_printable hlow hhigh
      · rw [hclosing c hc]
        decide
  have htrimmed : Text.trimmed (blanks ++ (opening ++ (core ++ closing))) =
      opening ++ (core ++ closing) := by
    rw [Text.trimmed_blanks_append hblanks]
    exact Text.trimmed_eq_self (fun c hc => hvisible c (List.mem_of_head? hc))
      fun c hc => hvisible c (List.mem_of_getLast? hc)
  have hopened : (core ++ closing).dropWhile (· = '<') = core ++ closing := by
    refine Text.dropWhile_eq_self_of_head? fun c hc => decide_eq_false fun heq => ?_
    subst heq
    rcases List.mem_append.1 (List.mem_of_head? hc) with hc | hc
    · exact (isTargetCharacter_iff.1 (hcore _ hc)).2.2.1 rfl
    · exact absurd (hclosing _ hc) (by decide)
  have hclosed : core.reverse.dropWhile (· = '>') = core.reverse := by
    refine Text.dropWhile_eq_self_of_head? fun c hc => decide_eq_false fun heq => ?_
    subst heq
    exact (isTargetCharacter_iff.1 (hcore _ (List.mem_reverse.1 (List.mem_of_head? hc)))).2.2.2 rfl
  rw [bare, htrimmed, List.dropWhile_append_of_pos fun c hc => decide_eq_true (hopening c hc),
    hopened, List.reverse_append, List.dropWhile_append_of_pos fun c hc =>
      decide_eq_true (hclosing c (List.mem_reverse.1 hc)), hclosed, List.reverse_reverse]

/-- The mark of the next page has quotes. -/
theorem any_eq_nextMark (pieces : List (List Char)) (h : '"' ∉ cs)
    (hpieces : ∀ piece ∈ pieces, piece ∈ Text.splitAt ';' cs) :
    pieces.any (Text.trimmed · = nextMark) = false := by
  refine List.any_eq_false.2 fun piece hpiece hmark => h ?_
  have hquote : '"' ∈ Text.trimmed piece := by
    rw [of_decide_eq_true hmark]
    decide
  exact (Text.mem_of_mem_splitAt (hpieces piece hpiece) (Text.mem_of_mem_trimmed hquote)).1

theorem nextOfEntry?_unquoted (h : '"' ∉ cs) : nextOfEntry? cs = none := by
  unfold nextOfEntry?
  split
  · rfl
  · rfl
  · next target parameters _ hsplit =>
    have hnone := any_eq_nextMark parameters h fun piece hpiece =>
      hsplit ▸ List.mem_cons_of_mem _ hpiece
    rw [hnone, if_neg Bool.false_ne_true]

/-- Without the blank before it, a parameter is its relation in quotes. -/
theorem trimmed_parameter (e : Entry) : Text.trimmed e.parameter =
    'r' :: 'e' :: 'l' :: '=' :: '"' :: (e.relation.toList ++ ['"']) := by
  have hblank : ∀ c ∈ [' '], Text.isBlank c = true := List.all_eq_true.1 (by decide)
  rw [Entry.parameter, ← List.singleton_append, Text.trimmed_blanks_append hblank]
  refine Text.trimmed_eq_self (fun c hc => ?_) fun c hc => ?_
  · obtain rfl := Option.some.inj hc
    decide
  · simp only [← List.cons_append, List.getLast?_concat] at hc
    obtain rfl := Option.some.inj hc
    decide

/-- A parameter is the mark of the next page exactly if the entry is for it. -/
theorem trimmed_parameter_eq_nextMark_iff (e : Entry) :
    Text.trimmed e.parameter = nextMark ↔ e.isNext = true := by
  have hmark : nextMark = 'r' :: 'e' :: 'l' :: '=' :: '"' :: ("next".toList ++ ['"']) := by decide
  rw [trimmed_parameter, hmark]
  simp only [List.cons.injEq, true_and, List.append_cancel_right_eq, Entry.isNext,
    decide_eq_true_eq, String.toList_inj]

/-- A parameter has the characters of its relation, and those around it. -/
theorem not_mem_parameter {c : Char} (e : Entry) (hname : c ∉ [' ', 'r', 'e', 'l', '=', '"'])
    (hrelation : isRelationCharacter c = false) : c ∉ e.parameter := by
  simp only [List.mem_cons, List.not_mem_nil, or_false, not_or] at hname
  obtain ⟨hblank, hr, he, hl, hequals, hquote⟩ := hname
  simp only [Entry.parameter, List.mem_cons, List.mem_append, List.not_mem_nil, or_false, not_or]
  refine ⟨hblank, hr, he, hl, hequals, hquote, fun hmem => ?_, hquote⟩
  simp [e.relation_chars _ hmem] at hrelation

theorem semicolon_not_mem_parameter (e : Entry) : ';' ∉ e.parameter :=
  not_mem_parameter e (by decide) (by decide)

theorem comma_not_mem_parameter (e : Entry) : ',' ∉ e.parameter :=
  not_mem_parameter e (by decide) (by decide)

/-- Only its relation marks an entry, and the target is what is before the first semicolon. -/
theorem nextOfEntry?_parameter (e : Entry) (hfront : '"' ∉ front) :
    nextOfEntry? (front ++ ';' :: e.parameter) =
      if e.isNext then some (bare (front.takeWhile (· ≠ ';'))) else none := by
  have hhead := Text.head?_splitAt ';' front
  cases hfrontsplit : Text.splitAt ';' front with
  | nil => simp [hfrontsplit] at hhead
  | cons target parameters =>
    rw [hfrontsplit] at hhead
    obtain rfl : target = _ := Option.some.inj hhead
    have hsplit : Text.splitAt ';' (front ++ ';' :: e.parameter) =
        front.takeWhile (· ≠ ';') :: (parameters ++ [e.parameter]) := by
      rw [Text.splitAt_append_cons, Text.splitAt_eq_singleton (semicolon_not_mem_parameter e),
        hfrontsplit, List.cons_append]
    have hnone := any_eq_nextMark parameters hfront fun piece hpiece =>
      hfrontsplit ▸ List.mem_cons_of_mem _ hpiece
    have hmark : (parameters ++ [e.parameter]).any (Text.trimmed · = nextMark) = e.isNext := by
      rw [List.any_append, hnone, Bool.false_or, List.any_cons, List.any_nil, Bool.or_false,
        Bool.eq_iff_iff, decide_eq_true_eq]
      exact trimmed_parameter_eq_nextMark_iff e
    unfold nextOfEntry?
    rw [hsplit]
    split
    · next h => cases h
    · next h => simp at h
    · next h =>
      obtain ⟨rfl, rfl⟩ := List.cons.inj h
      rw [hmark]

/-! ## What is found in a header -/

/-- The bracket behind a target is left, unless it is cut off with a part of the target. -/
theorem exists_takeWhile_closing (core : List Char) : ∃ closing, (∀ c ∈ closing, c = '>') ∧
    (core ++ ['>']).takeWhile (· ≠ ';') = core.takeWhile (· ≠ ';') ++ closing := by
  rw [List.takeWhile_append]
  split
  · next hlength =>
    have hall := (List.takeWhile_prefix (l := core) (· ≠ ';')).eq_of_length hlength
    exact ⟨['>'], by simp, by rw [hall]; rfl⟩
  · exact ⟨[], by simp, (List.append_nil _).symm⟩

/-- The last part of an entry is where its target is looked for. -/
theorem nextOfEntry?_target (e : Entry) (blanks opening : List Char) (hblanks : ∀ c ∈ blanks, c = ' ')
    (hopening : ∀ c ∈ opening, c = '<') (hcore : ∀ c ∈ core, isTargetCharacter c = true) :
    nextOfEntry? (blanks ++ (opening ++ (core ++ '>' :: ';' :: e.parameter))) =
      if e.isNext then some (String.ofList (core.takeWhile (· ≠ ';'))) else none := by
  have hfront : blanks ++ (opening ++ (core ++ '>' :: ';' :: e.parameter)) =
      (blanks ++ (opening ++ (core ++ ['>']))) ++ ';' :: e.parameter := by simp
  have hunquoted : '"' ∉ blanks ++ (opening ++ (core ++ ['>'])) := by
    simp only [List.mem_append, List.mem_singleton, not_or]
    refine ⟨fun h => absurd (hblanks _ h) (by decide), fun h => absurd (hopening _ h) (by decide),
      fun h => ?_, by decide⟩
    exact (isTargetCharacter_iff.1 (hcore _ h)).2.1 rfl
  have hkept : ∀ c ∈ blanks, decide (c ≠ ';') = true := fun c hc => by rw [hblanks c hc]; decide
  have hopened : ∀ c ∈ opening, decide (c ≠ ';') = true := fun c hc => by
    rw [hopening c hc]
    decide
  obtain ⟨closing, hclosing, hcut⟩ := exists_takeWhile_closing core
  have hbare : bare (blanks ++ (opening ++ (core.takeWhile (· ≠ ';') ++ closing))) =
      String.ofList (core.takeWhile (· ≠ ';')) :=
    bare_append (fun c hc => by rw [hblanks c hc]; decide) hopening
      (fun c hc => hcore c (List.takeWhile_subset _ hc)) hclosing
  rw [hfront, nextOfEntry?_parameter e hunquoted, List.takeWhile_append_of_pos hkept,
    List.takeWhile_append_of_pos hopened, hcut, hbare]

/-- A text has a last comma, if any. -/
theorem exists_last_comma (h : ',' ∈ cs) : ∃ before last, ',' ∉ last ∧ cs = before ++ ',' :: last := by
  obtain ⟨last, before, hreverse, hlast⟩ := List.eq_append_cons_of_mem (List.mem_reverse.2 h)
  refine ⟨before.reverse, last.reverse, fun hmem => hlast (List.mem_reverse.1 hmem), ?_⟩
  rw [← List.reverse_reverse cs, hreverse]
  simp

/-- Only the last piece of an entry has its mark, and with it the remnant of its target. -/
theorem findSome?_text (e : Entry) (blanks : List Char) (hblanks : ∀ c ∈ blanks, c = ' ') :
    (Text.splitAt ',' (blanks ++ e.text.toList)).findSome? nextOfEntry? =
      if e.isNext then some (String.ofList (remnant e.target.toList)) else none := by
  have hopening : ∀ c ∈ ['<'], c = '<' := by simp
  have hbehind : ∀ last, ',' ∉ last → ',' ∉ last ++ '>' :: ';' :: e.parameter := by
    intro last hlast
    simp only [List.mem_append, List.mem_cons, not_or]
    exact ⟨hlast, by decide, by decide, comma_not_mem_parameter e⟩
  by_cases hcomma : ',' ∈ e.target.toList
  · -- only the part behind the last comma can be marked
    obtain ⟨before, last, hlast, htarget⟩ := exists_last_comma hcomma
    have hchars : ∀ c ∈ before ++ ',' :: last, isTargetCharacter c = true :=
      htarget ▸ e.target_chars
    have hsplit : blanks ++ e.text.toList =
        (blanks ++ '<' :: before) ++ ',' :: (last ++ '>' :: ';' :: e.parameter) := by
      simp [Entry.toList_text, htarget]
    have hbefore : (Text.splitAt ',' (blanks ++ '<' :: before)).findSome? nextOfEntry? = none := by
      refine List.findSome?_eq_none_iff.2 fun piece hpiece => nextOfEntry?_unquoted fun hquote => ?_
      rcases List.mem_append.1 (Text.mem_of_mem_splitAt hpiece hquote).1 with hmem | hmem
      · exact absurd (hblanks _ hmem) (by decide)
      · rcases List.mem_cons.1 hmem with h | hmem
        · cases h
        · exact (isTargetCharacter_iff.1 (hchars _ (List.mem_append_left _ hmem))).2.1 rfl
    have hfound := nextOfEntry?_target e [] [] (by simp) (by simp)
      fun c hc => hchars c (List.mem_append_right _ (List.mem_cons_of_mem _ hc))
    rw [hsplit, Text.splitAt_append_cons, List.findSome?_append, hbefore, Option.none_or,
      Text.splitAt_eq_singleton (hbehind last hlast), htarget, remnant_append_cons hlast]
    simpa using hfound
  · have hwhole : ',' ∉ blanks ++ e.text.toList := by
      rw [Entry.toList_text, List.mem_append, List.mem_cons, not_or, not_or]
      exact ⟨fun h => absurd (hblanks _ h) (by decide), by decide, hbehind _ hcomma⟩
    have hfound := nextOfEntry?_target e blanks ['<'] hblanks hopening e.target_chars
    rw [Text.splitAt_eq_singleton hwhole, remnant_of_not_mem hcomma, Entry.toList_text]
    simpa using hfound

/-- The first marked entry of a header is found, with what is left of its target. -/
theorem findSome?_header (entries : List Entry) (blanks : List Char)
    (hblanks : ∀ c ∈ blanks, c = ' ') :
    (Text.splitAt ',' (blanks ++ (header entries).toList)).findSome? nextOfEntry? =
      (entries.find? Entry.isNext).map fun e => String.ofList (remnant e.target.toList) := by
  induction entries generalizing blanks with
  | nil =>
    have hcomma : ',' ∉ blanks := fun h => absurd (hblanks _ h) (by decide)
    have hquote : '"' ∉ blanks := fun h => absurd (hblanks _ h) (by decide)
    have hnone := nextOfEntry?_unquoted hquote
    simp [header, Text.splitAt_eq_singleton hcomma, hnone]
  | cons e rest ih =>
    have hfirst := findSome?_text e blanks hblanks
    cases rest with
    | nil =>
      have hheader : header [e] = e.text := by simp [header]
      rw [hheader, hfirst, List.find?_cons]
      cases e.isNext <;> rfl
    | cons e' rest =>
      have hsplit : blanks ++ (header (e :: e' :: rest)).toList =
          (blanks ++ e.text.toList) ++ ',' :: ([' '] ++ (header (e' :: rest)).toList) := by
        simp [header, String.intercalate_cons_cons]
      rw [hsplit, Text.splitAt_append_cons, List.findSome?_append, hfirst, ih [' '] (by simp),
        List.find?_cons (a := e)]
      cases e.isNext <;> rfl

theorem isVisible_append (s t : String) : isVisible (s ++ t) = (isVisible s && isVisible t) := by
  simp [isVisible]

theorem isVisible_of_printable {s : String} (h : ∀ c ∈ s.toList, 33 ≤ c.toNat ∧ c.toNat < 127) :
    isVisible s = true := by
  refine List.all_eq_true.2 fun c hc => ?_
  obtain ⟨hlow, hhigh⟩ := h c hc
  simp only [Bool.or_eq_true, Bool.and_eq_true, decide_eq_true_eq]
  omega

/-- An entry can be sent in a header. -/
theorem Entry.isVisible_text (e : Entry) : isVisible e.text = true := by
  have htarget := isVisible_of_printable fun c hc => (isTargetCharacter_iff.1 (e.target_chars c hc)).1
  have hrelation := isVisible_of_printable fun c hc =>
    (isRelationCharacter_iff.1 (e.relation_chars c hc)).1
  simp only [text, isVisible_append, htarget, hrelation]
  decide

/-- So can a list of them. -/
theorem isVisible_header (entries : List Entry) : isVisible (header entries) = true := by
  have hseparator : isVisible ", " = true := by decide
  rw [header]
  induction entries with
  | nil => rfl
  | cons e rest ih =>
    cases rest with
    | nil => simpa using e.isVisible_text
    | cons e' rest =>
      rw [List.map_cons, List.map_cons, String.intercalate_cons_cons, isVisible_append,
        isVisible_append, e.isVisible_text, hseparator]
      exact ih

/-- The next page is that of the first entry that is marked as such. -/
theorem next?_header (entries : List Entry) : next? (header entries) =
    (entries.find? Entry.isNext).map fun e => String.ofList (remnant e.target.toList) := by
  rw [next?, if_pos (isVisible_header entries)]
  exact findSome?_header entries [] (by simp)

/-- **The next page that a header leads to** is what is left of the target of the first entry that is
marked as the next page. That is the target exactly if it has neither commas nor semicolons. -/
theorem nextLink?_header {a : Response} {entries : List Entry}
    (h : a.header? "link" = some (header entries)) :
    a.nextLink? =
      ((entries.find? Entry.isNext).map fun e => String.ofList (remnant e.target.toList)) ∧
    (a.nextLink? = (entries.find? Entry.isNext).map Entry.target ↔
      ∀ e, entries.find? Entry.isNext = some e → ',' ∉ e.target.toList ∧ ';' ∉ e.target.toList) := by
  have hnext : a.nextLink? =
      (entries.find? Entry.isNext).map fun e => String.ofList (remnant e.target.toList) := by
    rw [Response.nextLink?, h, Option.bind_some, next?_header]
  refine ⟨hnext, ?_⟩
  rw [hnext]
  cases entries.find? Entry.isNext with
  | none => simp
  | some e =>
    simp only [Option.map_some, Option.some.injEq, forall_eq', ← String.toList_inj,
      String.toList_ofList, remnant_eq_self_iff]

/-- A header of a page in the middle. -/
def middle : List Entry := [
  { target := "https://api.example.org/more?page=1", relation := "prev"
    target_chars := List.all_eq_true.1 (by decide)
    relation_chars := List.all_eq_true.1 (by decide) },
  { target := "https://api.example.org/more?page=3", relation := "next"
    target_chars := List.all_eq_true.1 (by decide)
    relation_chars := List.all_eq_true.1 (by decide) }]

/-- The entry for the next page is found behind another. -/
theorem nextLink?_header_middle : ∃ a : Response, a.header? "link" = some (header middle) ∧
    a.nextLink? = some "https://api.example.org/more?page=3" := by
  have hheader : Response.header? ⟨200, [("link", header middle)], []⟩ "link" =
      some (header middle) := by
    decide +kernel
  refine ⟨_, hheader, ?_⟩
  rw [(nextLink?_header hheader).1]
  decide +kernel

/-- An address with a comma. -/
def ranged : Entry :=
  { target := "https://api.example.org/more?pages=2,3", relation := "next"
    target_chars := List.all_eq_true.1 (by decide)
    relation_chars := List.all_eq_true.1 (by decide) }

/-- **A target with a comma is not found.** What is left of this one is no address. -/
theorem not_nextLink?_eq_target : ¬ ∀ (a : Response) (entries : List Entry),
    a.header? "link" = some (header entries) →
      a.nextLink? = (entries.find? Entry.isNext).map Entry.target := by
  intro h
  have htarget := h ⟨200, [("link", header [ranged])], []⟩ [ranged] (by decide +kernel)
  exact absurd htarget (by decide +kernel)

end ProposalGate.Rest.Link
