import Mathlib.Data.List.TakeWhile
import ProposalGate.Proofs.Text.Blank
import ProposalGate.Proofs.Text.Parts
import ProposalGate.Repository

/-!
# Which texts refer to a repository

A text refers to a repository in the short form or by an address (`Refers`). The reader takes an
address apart from left to right; here it is put together from its parts (`Address.text`), and the
reader finds the parts of every address and nothing else (`Address.address?_text`,
`Address.exists_text`). The parts are unique but for one thing: a name that ends in `.git` and is
followed by nothing is written like a shorter name that is followed by that ending. The reader takes
the shorter one, unless nothing would be left (`Address.IsRead`).

So a text is read exactly as what it refers to and is an error exactly if it refers to nothing
(`parse_eq_ok_iff`, `parse_eq_error_iff`). What is written is read again (`parse_written`), and the
host that is given beside a reference is kept by the short form only (`host_of_parse`).
-/

namespace ProposalGate.Repository

variable {cs host owner name base : List Char}

/-! ## The short form -/

/-- A text that may be an owner or a name in the short form. -/
def IsShortPart (s : String) : Prop :=
  s ≠ "" ∧ ∀ c ∈ s.toList, Text.isWord c = true ∨ c = '.' ∨ c = '-'

/-- No word character is a blank. -/
theorem words_avoid_blanks : ∀ word ∈ Text.wordRanges, ∀ blank ∈ Text.blankRanges,
    word.2 < blank.1 ∨ blank.2 < word.1 := by
  decide +kernel

theorem isBlank_of_isSlugPart {c : Char} (h : isSlugPart c = true) : Text.isBlank c = false := by
  simp only [isSlugPart, Bool.or_eq_true, decide_eq_true_eq, or_assoc] at h
  rcases h with h | rfl | rfl
  · obtain ⟨word, hword, hin⟩ := List.any_eq_true.1 h
    refine List.any_eq_false.2 fun blank hblank => ?_
    have havoids := words_avoid_blanks word hword blank hblank
    simp only [Bool.and_eq_true, decide_eq_true_eq] at hin ⊢
    omega
  · decide
  · decide

theorem slash_not_mem (h : isSlug cs = true) : '/' ∉ cs := by
  intro hmem
  rw [isSlug, Bool.and_eq_true, List.all_eq_true] at h
  exact absurd (h.2 _ hmem) (by decide +kernel)

/-- A slug is what a part of a short reference may be. -/
theorem isSlug_iff {s : String} : isSlug s.toList = true ↔ IsShortPart s := by
  simp only [isSlug, isSlugPart, IsShortPart, Bool.and_eq_true, Bool.or_eq_true,
    decide_eq_true_eq, List.all_eq_true, Bool.not_eq_true', List.isEmpty_eq_false_iff, ne_eq,
    String.toList_eq_nil_iff, or_assoc]

/-- A short reference is two slugs with a slash between them. -/
theorem short?_eq_some_iff : short? cs = some (owner, name) ↔
    isSlug owner = true ∧ isSlug name = true ∧ cs = owner ++ '/' :: name := by
  rw [short?]
  constructor
  · intro h
    split at h
    · next owner' name' hpieces =>
      split at h
      · next hslugs =>
        obtain ⟨rfl, rfl⟩ := Prod.mk.inj (Option.some.inj h)
        rw [Bool.and_eq_true] at hslugs
        exact ⟨hslugs.1, hslugs.2, (Text.splitAt_eq_pair_iff.1 hpieces).2.2⟩
      · cases h
    · cases h
  · rintro ⟨howner, hname, hcs⟩
    have hpieces : Text.splitAt '/' cs = [owner, name] :=
      Text.splitAt_eq_pair_iff.2 ⟨slash_not_mem howner, slash_not_mem hname, hcs⟩
    simp only [hpieces, howner, hname, Bool.and_self, if_true]

/-! ## Addresses -/

/-- One suffix is taken from a name, if something is left of it. -/
theorem bareName_append (hne : name ≠ []) : bareName (name ++ ".git".toList) = name := by
  rw [bareName, Text.beforeEnd?_eq_some_iff.2 rfl]
  simp [hne]

/-- A name is kept if nothing would be left of it without the ending. -/
theorem bareName_eq_self (h : ∀ base, cs = base ++ ".git".toList → base = []) :
    bareName cs = cs := by
  rw [bareName]
  split
  · next base hend => rw [h base (Text.beforeEnd?_eq_some_iff.1 hend), List.isEmpty_nil, if_pos rfl]
  · rfl

/-- A name either loses the ending or is kept. -/
theorem bareName_cases (hne : cs ≠ []) : ∃ suffixed : Bool,
    (suffixed = false → ∀ base, cs = base ++ ".git".toList → base = []) ∧ bareName cs ≠ [] ∧
      cs = bareName cs ++ (if suffixed then ".git" else "").toList := by
  by_cases h : ∃ base, base ≠ [] ∧ cs = base ++ ".git".toList
  · obtain ⟨base, hbase, rfl⟩ := h
    rw [bareName_append hbase]
    exact ⟨true, fun hkept => absurd hkept (by decide), hbase, rfl⟩
  · have hkept : ∀ base, cs = base ++ ".git".toList → base = [] := fun base hcs =>
      Classical.byContradiction fun hbase => h ⟨base, hbase, hcs⟩
    rw [bareName_eq_self hkept]
    exact ⟨false, fun _ => hkept, hne, (List.append_nil cs).symm⟩

/-- The last name is what is left without a slash at its end and without the suffix. -/
theorem lastName?_eq_some_iff : lastName? cs = some name ↔
    ∃ base ending, (ending = [] ∨ ending = ['/']) ∧ base ≠ [] ∧ '/' ∉ base ∧
      cs = base ++ ending ∧ bareName base = name := by
  rw [lastName?]
  constructor
  · intro h
    split at h
    · cases h
    · next hbase =>
      simp only [Bool.or_eq_true, not_or, List.isEmpty_iff, List.contains_iff_mem] at hbase
      obtain ⟨hne, hslash⟩ := hbase
      cases hend : Text.beforeEnd? ['/'] cs with
      | none =>
        simp only [hend, Option.getD_none] at h hne hslash
        exact ⟨cs, [], .inl rfl, hne, hslash, (List.append_nil cs).symm, Option.some.inj h⟩
      | some base =>
        simp only [hend, Option.getD_some] at h hne hslash
        exact ⟨base, ['/'], .inr rfl, hne, hslash, Text.beforeEnd?_eq_some_iff.1 hend,
          Option.some.inj h⟩
  · rintro ⟨base, ending, hending, hne, hslash, rfl, rfl⟩
    have hbase : (Text.beforeEnd? ['/'] (base ++ ending)).getD (base ++ ending) = base := by
      rcases hending with rfl | rfl
      · have hnone : Text.beforeEnd? ['/'] (base ++ []) = none := by
          refine Option.eq_none_iff_forall_not_mem.2 fun before hbefore => hslash ?_
          have hcut := Text.beforeEnd?_eq_some_iff.1 hbefore
          rw [List.append_nil] at hcut
          simp [hcut]
        rw [hnone, Option.getD_none, List.append_nil]
      · rw [Text.beforeEnd?_eq_some_iff.2 rfl, Option.getD_some]
    rw [hbase, if_neg (by simp [hne, hslash])]

/-- An address has a host, a separator, an owner and a last name. -/
theorem parts?_eq_some_iff : parts? cs = some (host, owner, name) ↔
    ∃ separator rest, (separator = '/' ∨ separator = ':') ∧ host ≠ [] ∧
      (∀ c ∈ host, c ≠ '/' ∧ c ≠ ':') ∧ owner ≠ [] ∧ '/' ∉ owner ∧
      cs = host ++ separator :: (owner ++ '/' :: rest) ∧ lastName? rest = some name := by
  constructor
  · intro h
    simp only [parts?, Option.bind_eq_bind, Option.bind_eq_some_iff] at h
    obtain ⟨name', hname, h⟩ := h
    split at h
    · cases h
    · next hcut =>
      simp only [Bool.or_eq_true, not_or, List.isEmpty_iff, decide_eq_true_eq] at hcut
      obtain ⟨⟨⟨hhost, howner⟩, hlength⟩, hrest⟩ := hcut
      obtain ⟨separator, path, hseparator, hcs⟩ := Text.exists_eq_takeWhile_append
        fun hall => hlength (congrArg List.length hall.symm)
      have hhost' : ∀ c ∈ cs.takeWhile (fun c => c ≠ '/' && c ≠ ':'), c ≠ '/' ∧ c ≠ ':' :=
        fun c hc => by simpa using List.mem_takeWhile_imp hc
      -- what is behind the host does not depend on how the host was found
      generalize cs.takeWhile (fun c => c ≠ '/' && c ≠ ':') = front at *
      subst hcs
      simp only [List.drop_left, List.drop_succ_cons, List.drop_zero] at hname h hrest howner
      obtain ⟨slash, rest, hslash, hpath⟩ := Text.exists_eq_takeWhile_append
        fun hall => hrest (List.drop_eq_nil_of_le (congrArg List.length hall.symm).le)
      have howner' : ∀ c ∈ path.takeWhile (· ≠ '/'), c ≠ '/' :=
        fun c hc => by simpa using List.mem_takeWhile_imp hc
      generalize path.takeWhile (· ≠ '/') = before at *
      subst hpath
      simp only [List.drop_left, List.drop_succ_cons, List.drop_zero] at hname
      simp only [Option.some.injEq, Prod.mk.injEq] at h
      obtain ⟨rfl, rfl, rfl⟩ := h
      obtain rfl : slash = '/' := by simpa using hslash
      refine ⟨separator, rest, ?_, hhost, hhost', howner, fun hmem => howner' _ hmem rfl, rfl,
        hname⟩
      simpa only [Bool.and_eq_false_iff, decide_eq_false_iff_not, not_not] using hseparator
  · rintro ⟨separator, rest, hseparator, hhost, hhost', howner, howner', rfl, hname⟩
    have htake : (host ++ separator :: (owner ++ '/' :: rest)).takeWhile
        (fun c => c ≠ '/' && c ≠ ':') = host := by
      refine Text.takeWhile_append_cons (fun c hc => ?_) ?_
      · simp [hhost' c hc]
      · rcases hseparator with rfl | rfl <;> decide
    have htake' : (owner ++ '/' :: rest).takeWhile (· ≠ '/') = owner :=
      Text.takeWhile_append_cons (fun c hc => decide_eq_true fun heq => howner' (heq ▸ hc))
        (by decide)
    simp only [parts?, htake, htake', List.drop_left, List.drop_succ_cons, List.drop_zero]
    simp [hname, hhost, howner]

/-- How an address begins. -/
inductive Opening where
  /-- it is reached encrypted -/
  | https
  /-- it is reached in the clear -/
  | http
  /-- it is reached over a secure shell -/
  | shell
  deriving DecidableEq, Repr

/-- What an address begins with. -/
def Opening.text : Opening → String
  | .https => "https://"
  | .http => "http://"
  | .shell => "git@"

/-- An address that a repository is cloned from. -/
structure Address where
  /-- how it begins -/
  opening : Opening
  /-- the host -/
  host : String
  /-- what is between the host and the owner -/
  separator : Char
  /-- the owner -/
  owner : String
  /-- the name -/
  name : String
  /-- whether the ending of clone addresses follows the name -/
  suffixed : Bool
  /-- whether a slash is at the end -/
  slashed : Bool
  /-- a host is named, and ends where it should -/
  host_chars : host ≠ "" ∧ ∀ c ∈ host.toList, c ≠ '/' ∧ c ≠ ':'
  /-- the separator is one of two -/
  separator_mem : separator = '/' ∨ separator = ':'
  /-- an owner is named -/
  owner_chars : owner ≠ "" ∧ '/' ∉ owner.toList
  /-- a name is named -/
  name_chars : name ≠ "" ∧ '/' ∉ name.toList

namespace Address

variable {a : Address}

/-- What stands behind the name. -/
def ending (a : Address) : String :=
  (if a.suffixed then ".git" else "") ++ if a.slashed then "/" else ""

/-- An address as it is written. -/
def text (a : Address) : String :=
  a.opening.text ++ a.host ++ String.singleton a.separator ++ a.owner ++ "/" ++ a.name ++ a.ending

/-- Whether the name is read as it is written: what looks like the ending is the ending, unless there
would be no name without it. -/
def IsRead (a : Address) : Prop :=
  a.suffixed = false → ∀ base, a.name = base ++ ".git" → base = ""

/-- What is behind the opening. -/
def behind (a : Address) : List Char :=
  a.host.toList ++ a.separator :: (a.owner.toList ++ '/' :: (a.name.toList ++ a.ending.toList))

theorem toList_text (a : Address) : a.text.toList = a.opening.text.toList ++ a.behind := by
  simp [text, behind]

/-- Every address is written like one that is read so. -/
theorem exists_isRead (a : Address) :
    ∃ b : Address, b.IsRead ∧ b.text = a.text ∧ b.host = a.host ∧ b.owner = a.owner := by
  by_cases hread : a.IsRead
  · exact ⟨a, hread, rfl, rfl, rfl⟩
  · simp only [IsRead, not_forall] at hread
    obtain ⟨hplain, base, hname, hbase⟩ := hread
    have hslash : '/' ∉ base.toList := fun hmem => a.name_chars.2 (by simp [hname, hmem])
    refine ⟨{ a with name := base, suffixed := true, name_chars := ⟨hbase, hslash⟩ }, ?_, ?_,
      rfl, rfl⟩
    · intro hsuffixed
      cases hsuffixed
    · simp [text, ending, hname, hplain, String.append_assoc]

theorem lastName?_text (h : a.IsRead) :
    lastName? (a.name.toList ++ a.ending.toList) = some a.name.toList := by
  have hne : a.name.toList ≠ [] := mt String.toList_eq_nil_iff.1 a.name_chars.1
  refine lastName?_eq_some_iff.2 ⟨a.name.toList ++ (if a.suffixed then ".git" else "").toList,
    (if a.slashed then "/" else "").toList, ?_, ?_, ?_, ?_, ?_⟩
  · cases a.slashed <;> simp
  · simp [hne]
  · rw [List.mem_append, not_or]
    exact ⟨a.name_chars.2, by cases a.suffixed <;> decide⟩
  · rw [ending, String.toList_append, List.append_assoc]
  · cases hsuffixed : a.suffixed with
    | true => exact bareName_append hne
    | false =>
      rw [if_neg Bool.false_ne_true, String.toList_empty, List.append_nil]
      refine bareName_eq_self fun base hbase => ?_
      have hname : a.name = String.ofList base ++ ".git" := by
        rw [← String.toList_inj, String.toList_append, String.toList_ofList, hbase]
      simpa [← String.toList_inj] using h hsuffixed _ hname

/-- What stands behind the opening of an address is read back. -/
theorem parts?_behind (h : a.IsRead) :
    parts? a.behind = some (a.host.toList, a.owner.toList, a.name.toList) := by
  have hhost : a.host.toList ≠ [] := mt String.toList_eq_nil_iff.1 a.host_chars.1
  have howner : a.owner.toList ≠ [] := mt String.toList_eq_nil_iff.1 a.owner_chars.1
  exact parts?_eq_some_iff.2 ⟨a.separator, _, a.separator_mem, hhost, a.host_chars.2, howner,
    a.owner_chars.2, rfl, lastName?_text h⟩

/-- Whatever is read as the parts of an address is one behind its opening. -/
theorem exists_behind (h : parts? cs = some (host, owner, name)) (opening : Opening) :
    ∃ a : Address, a.opening = opening ∧ a.IsRead ∧ a.behind = cs ∧
      a.host.toList = host ∧ a.owner.toList = owner ∧ a.name.toList = name := by
  obtain ⟨separator, rest, hseparator, hhost, hhost', howner, howner', rfl, hname⟩ :=
    parts?_eq_some_iff.1 h
  obtain ⟨base, slash, hslash, hbase, hbase', rfl, rfl⟩ := lastName?_eq_some_iff.1 hname
  have hslashed : ∃ slashed : Bool, (if slashed then "/" else "").toList = slash := by
    rcases hslash with rfl | rfl
    · exact ⟨false, rfl⟩
    · exact ⟨true, rfl⟩
  obtain ⟨slashed, rfl⟩ := hslashed
  obtain ⟨suffixed, hkept, hne, hsuffix⟩ := bareName_cases hbase
  have hslash' : '/' ∉ bareName base := fun hmem =>
    hbase' (hsuffix ▸ List.mem_append_left _ hmem)
  refine ⟨{ opening := opening, host := String.ofList host, separator := separator
            owner := String.ofList owner, name := String.ofList (bareName base)
            suffixed := suffixed, slashed := slashed
            host_chars := by simpa [← String.toList_inj] using ⟨hhost, hhost'⟩
            separator_mem := hseparator
            owner_chars := by simpa [← String.toList_inj] using ⟨howner, howner'⟩
            name_chars := by simpa [← String.toList_inj] using ⟨hne, hslash'⟩ }, rfl, ?_, ?_, ?_⟩
  · intro hplain shorter hname
    obtain rfl : suffixed = false := hplain
    have hcut : base = shorter.toList ++ ".git".toList := by
      have hname' : bareName base = (shorter ++ ".git").toList := by
        rw [← hname, String.toList_ofList]
      rw [hsuffix, hname', String.toList_append, if_neg Bool.false_ne_true, String.toList_empty,
        List.append_nil]
    exact String.toList_eq_nil_iff.1 (hkept rfl _ hcut)
  · simp only [behind, ending, String.toList_ofList, String.toList_append]
    rw [← List.append_assoc, ← hsuffix]
  · simp

/-- An address is read back. -/
theorem address?_text (h : a.IsRead) :
    address? a.text.toList = some (a.host.toList, a.owner.toList, a.name.toList) := by
  have hparts := parts?_behind h
  cases hopening : a.opening <;>
    simp [address?, addressStarts, toList_text, hopening, Opening.text, Text.afterStart?, hparts]

/-- Whatever is read as an address was written as one. -/
theorem exists_text (h : address? cs = some (host, owner, name)) :
    ∃ a : Address, a.IsRead ∧ a.text.toList = cs ∧
      a.host.toList = host ∧ a.owner.toList = owner ∧ a.name.toList = name := by
  obtain ⟨start, hstart, hrest⟩ := List.exists_of_findSome?_eq_some h
  obtain ⟨rest, hafter, hparts⟩ := Option.bind_eq_some_iff.1 hrest
  have hopening : ∃ opening : Opening, opening.text.toList = start := by
    simp only [addressStarts, List.mem_cons, List.not_mem_nil, or_false] at hstart
    rcases hstart with rfl | rfl | rfl
    · exact ⟨.https, rfl⟩
    · exact ⟨.http, rfl⟩
    · exact ⟨.shell, rfl⟩
  obtain ⟨opening, rfl⟩ := hopening
  obtain ⟨a, rfl, hread, rfl, hfields⟩ := exists_behind hparts opening
  refine ⟨a, hread, ?_, hfields⟩
  rw [toList_text, Text.afterStart?_eq_some_iff.1 hafter]

/-- An address is no short form: it begins with what cannot stand there. -/
theorem short?_text (a : Address) : short? a.text.toList = none := by
  have hforeign : ∃ c ∈ a.opening.text.toList, isSlugPart c = false ∧ c ≠ '/' := by
    cases a.opening
    · exact ⟨':', by decide +kernel⟩
    · exact ⟨':', by decide +kernel⟩
    · exact ⟨'@', by decide +kernel⟩
  obtain ⟨c, hmem, hslug, hslash⟩ := hforeign
  refine Option.eq_none_iff_forall_not_mem.2 fun ⟨owner, name⟩ hshort => ?_
  obtain ⟨howner, hname, hcut⟩ := short?_eq_some_iff.1 hshort
  simp only [isSlug, Bool.and_eq_true, List.all_eq_true] at howner hname
  have hc : c ∈ owner ++ '/' :: name := hcut ▸ toList_text a ▸ List.mem_append_left _ hmem
  rcases List.mem_append.1 hc with hc | hc
  · exact absurd (howner.2 c hc) (by simp [hslug])
  · rcases List.mem_cons.1 hc with hc | hc
    · exact hslash hc
    · exact absurd (hname.2 c hc) (by simp [hslug])

/-- The host that an address brings along, which is none if it is the usual one. -/
def foreignHost (a : Address) : Option String :=
  if a.host = usualHost then none else some a.host

end Address

/-! ## References -/

/-- What a text without blanks around it refers to, where `host` is given beside it. -/
inductive Refers (host : Option String) : String → Repository → Prop where
  /-- the short form keeps the host -/
  | short {owner name : String} : IsShortPart owner → IsShortPart name →
    Refers host (owner ++ "/" ++ name) ⟨owner, name, host⟩
  /-- an address brings its own -/
  | address (a : Address) : a.IsRead → Refers host a.text ⟨a.owner, a.name, a.foreignHost⟩

variable {text : String} {given : Option String} {r : Repository}

theorem short?_short {owner name : String} (howner : IsShortPart owner) (hname : IsShortPart name) :
    short? (owner ++ "/" ++ name).toList = some (owner.toList, name.toList) :=
  short?_eq_some_iff.2 ⟨isSlug_iff.2 howner, isSlug_iff.2 hname, by simp⟩

/-- The reader finds what a text refers to. -/
theorem Refers.parse_eq (h : Refers given (Text.trim text) r) : parse text given = .ok r := by
  rw [parse, ← Text.toList_trim]
  generalize Text.trim text = trimmed at h ⊢
  cases h with
  | short howner hname => simp only [short?_short howner hname, String.ofList_toList]
  | address a hread =>
    simp only [Address.short?_text, Address.address?_text hread, String.ofList_toList,
      Address.foreignHost]

/-- What is read is what the text refers to, and a text that refers to nothing is an error. -/
theorem refers_or_error (text : String) (given : Option String) :
    (∃ r, parse text given = .ok r ∧ Refers given (Text.trim text) r) ∨
      parse text given = .error (.invalidRepository (Text.trim text)) := by
  rw [parse, ← Text.toList_trim]
  generalize Text.trim text = trimmed
  cases hshort : short? trimmed.toList with
  | some parts =>
    obtain ⟨howner, hname, hcut⟩ := short?_eq_some_iff.1 hshort
    have htext : trimmed = String.ofList parts.1 ++ "/" ++ String.ofList parts.2 := by
      simp [← String.toList_inj, hcut]
    refine .inl ⟨_, rfl, htext ▸ .short (isSlug_iff.1 ?_) (isSlug_iff.1 ?_)⟩
    · rwa [String.toList_ofList]
    · rwa [String.toList_ofList]
  | none =>
    cases haddress : address? trimmed.toList with
    | none => exact .inr (by rw [String.ofList_toList])
    | some parts =>
      obtain ⟨a, hread, hcut, hhost, howner, hname⟩ := Address.exists_text haddress
      refine .inl ⟨_, rfl, ?_⟩
      simp only [← hhost, ← howner, ← hname, String.ofList_toList, ← String.toList_inj.1 hcut]
      exact .address a hread

/-- A text refers to a repository exactly if it is written in one of the ways. -/
theorem parse_eq_ok_iff : parse text given = .ok r ↔ Refers given (Text.trim text) r := by
  refine ⟨fun h => ?_, Refers.parse_eq⟩
  rcases refers_or_error text given with ⟨r', hr', href⟩ | herror
  · rw [h] at hr'
    cases hr'
    exact href
  · rw [h] at herror
    cases herror

/-- Otherwise the error has the text, without the blanks around it. -/
theorem parse_eq_error_iff {e : Error} : parse text given = .error e ↔
    e = .invalidRepository (Text.trim text) ∧ ∀ r, ¬Refers given (Text.trim text) r := by
  rcases refers_or_error text given with ⟨r, hr, href⟩ | herror
  · exact iff_of_false (by simp [hr]) fun h => h.2 r href
  · have hnone : ∀ r, ¬Refers given (Text.trim text) r := fun r href => by
      have hr := href.parse_eq
      rw [herror] at hr
      cases hr
    rw [herror, Except.error.injEq, eq_comm, and_iff_left hnone]

-- of a doubled ending the last one is taken off
example : parse "https://github.com/ethereum/EIPs.git.git" none =
    .ok ⟨"ethereum", "EIPs.git", none⟩ := by
  decide +kernel

/-- A text of the short form. -/
def IsShort (s : String) : Prop :=
  ∃ owner name, IsShortPart owner ∧ IsShortPart name ∧ s = owner ++ "/" ++ name

/-- A text that is an address, whatever its name ends in. -/
def IsAddress (s : String) : Prop :=
  ∃ a : Address, s = a.text

/-- A text refers to a repository exactly if it has one of the two forms. -/
theorem exists_refers_iff {s : String} :
    (∃ r, Refers given s r) ↔ IsShort s ∨ IsAddress s := by
  constructor
  · rintro ⟨r, howner, hname⟩
    · exact .inl ⟨_, _, howner, hname, rfl⟩
    · exact .inr ⟨_, rfl⟩
  · rintro (⟨owner, name, howner, hname, rfl⟩ | ⟨a, rfl⟩)
    · exact ⟨_, .short howner hname⟩
    · obtain ⟨b, hread, htext, -⟩ := a.exists_isRead
      rw [← htext]
      exact ⟨_, .address b hread⟩

/-- A short part is a part of a path. -/
theorem IsShortPart.slash_not_mem {s : String} (h : IsShortPart s) : '/' ∉ s.toList :=
  Repository.slash_not_mem (isSlug_iff.2 h)

/-- What is referred to has an owner and a name, and neither reaches over a slash. -/
theorem Refers.fields {s : String} (h : Refers given s r) :
    (r.owner ≠ "" ∧ '/' ∉ r.owner.toList) ∧ r.name ≠ "" ∧ '/' ∉ r.name.toList := by
  cases h with
  | short howner hname =>
    exact ⟨⟨howner.1, howner.slash_not_mem⟩, hname.1, hname.slash_not_mem⟩
  | address a => exact ⟨a.owner_chars, a.name_chars⟩

/-! ## References as they are written -/

/-- Whether a name can be told from what follows it: it does not end like a clone address or in a
blank. -/
structure IsPlainName (name : String) : Prop where
  /-- it does not end like the address of a clone -/
  unsuffixed : ¬".git".toList <:+ name.toList
  /-- it does not end in a blank -/
  trimmed : ∀ c ∈ name.toList.getLast?, Text.isBlank c = false

theorem Address.isRead {a : Address} (h : IsPlainName a.name) : a.IsRead := by
  intro _ base hname
  have hsuffix := h.unsuffixed
  rw [hname, String.toList_append] at hsuffix
  exact absurd (List.suffix_append _ _) hsuffix

theorem IsShortPart.isBlank_eq_false {s : String} (h : IsShortPart s) :
    ∀ c ∈ s.toList, Text.isBlank c = false := by
  intro c hc
  have hslug := isSlug_iff.2 h
  rw [isSlug, Bool.and_eq_true, List.all_eq_true] at hslug
  exact isBlank_of_isSlugPart (hslug.2 c hc)

/-- Nothing but the blanks around a short reference is taken from it. -/
theorem trim_short {before owner name after : String} (hbefore : Text.isBlankText before = true)
    (hafter : Text.isBlankText after = true) (howner : IsShortPart owner)
    (hname : IsShortPart name) :
    Text.trim (before ++ (owner ++ "/" ++ name) ++ after) = owner ++ "/" ++ name := by
  have hblank : ∀ c ∈ (owner ++ "/" ++ name).toList, Text.isBlank c = false := by
    intro c hc
    simp only [String.toList_append, List.mem_append, or_assoc] at hc
    rcases hc with hc | hc | hc
    · exact howner.isBlank_eq_false c hc
    · obtain rfl : c = '/' := List.mem_singleton.1 hc
      decide
    · exact hname.isBlank_eq_false c hc
  exact Text.trim_surrounded hbefore hafter (fun c hc => hblank c (List.mem_of_mem_head? hc))
    fun c hc => hblank c (List.mem_of_getLast? hc)

/-- An address ends in what stands behind the name or, if nothing does, like the name. -/
theorem Address.getLast?_text (a : Address) :
    a.text.toList.getLast? = a.ending.toList.getLast?.or a.name.toList.getLast? := by
  cases hlast : a.name.toList.getLast? with
  | none =>
    exact absurd (String.toList_eq_nil_iff.1 (List.getLast?_eq_none_iff.1 hlast)) a.name_chars.1
  | some c =>
    rw [text, String.toList_append, String.toList_append, List.getLast?_append,
      List.getLast?_append, hlast, Option.some_or]

/-- Nothing but the blanks around an address is taken from it. -/
theorem trim_address {before after : String} {a : Address}
    (hbefore : Text.isBlankText before = true)
    (hafter : Text.isBlankText after = true) (h : IsPlainName a.name) :
    Text.trim (before ++ a.text ++ after) = a.text := by
  refine Text.trim_surrounded hbefore hafter (fun c hc => ?_) fun c hc => ?_
  · have hhead : ∃ c, a.text.toList.head? = some c ∧ Text.isBlank c = false := by
      rw [Address.toList_text]
      cases a.opening
      · exact ⟨'h', rfl, by decide⟩
      · exact ⟨'h', rfl, by decide⟩
      · exact ⟨'g', rfl, by decide⟩
    obtain ⟨d, hd, hblank⟩ := hhead
    rwa [Option.some.inj (hc.symm.trans hd)]
  · rw [Address.getLast?_text] at hc
    cases hsuffixed : a.suffixed <;> cases hslashed : a.slashed <;>
      simp only [Address.ending, hsuffixed, hslashed] at hc
    · exact h.trimmed c (by simpa using hc)
    all_goals
      obtain rfl : _ = c := by simpa using hc
      decide

/-- An address is read as it was written, whatever blanks are around it. -/
theorem parse_address {before after : String} {a : Address}
    (hbefore : Text.isBlankText before = true)
    (hafter : Text.isBlankText after = true) (h : IsPlainName a.name) :
    parse (before ++ a.text ++ after) given = .ok ⟨a.owner, a.name, a.foreignHost⟩ :=
  parse_eq_ok_iff.2 ((trim_address hbefore hafter h).symm ▸ .address a (Address.isRead h))

/-- A short form is read as it was written, whatever blanks are around it. -/
theorem parse_short {before owner name after : String}
    (hbefore : Text.isBlankText before = true)
    (hafter : Text.isBlankText after = true) (howner : IsShortPart owner)
    (hname : IsShortPart name) :
    parse (before ++ (owner ++ "/" ++ name) ++ after) given = .ok ⟨owner, name, given⟩ :=
  parse_eq_ok_iff.2 ((trim_short hbefore hafter howner hname).symm ▸ .short howner hname)

/-- **References are read as they were written**: an address as its owner, its name and its host
unless that is the usual one, and the short form as its owner and its name. What is an error is what
has neither form, and whatever is read has an owner and a name. -/
theorem parse_written :
    (∀ (a : Address) (before after : String), IsPlainName a.name →
      Text.isBlankText before = true → Text.isBlankText after = true →
        parse (before ++ a.text ++ after) none =
          .ok ⟨a.owner, a.name, if a.host = usualHost then none else some a.host⟩) ∧
    (∀ owner name before after : String, IsShortPart owner → IsShortPart name →
      Text.isBlankText before = true → Text.isBlankText after = true →
        parse (before ++ (owner ++ "/" ++ name) ++ after) none = .ok ⟨owner, name, none⟩) ∧
    (∀ (text : String) (e : Error), parse text none = .error e ↔
      e = .invalidRepository (Text.trim text) ∧
        ¬IsShort (Text.trim text) ∧ ¬IsAddress (Text.trim text)) ∧
    ∀ (text : String) (r : Repository), parse text none = .ok r →
      (r.owner ≠ "" ∧ '/' ∉ r.owner.toList) ∧ r.name ≠ "" ∧ '/' ∉ r.name.toList := by
  refine ⟨fun a before after hname hbefore hafter => parse_address hbefore hafter hname,
    fun owner name before after howner hname hbefore hafter =>
      parse_short hbefore hafter howner hname,
    fun text e => ?_, fun text r hr => (parse_eq_ok_iff.1 hr).fields⟩
  rw [parse_eq_error_iff, ← not_exists, exists_refers_iff, not_or]

/-- An address on another host. -/
def enterprise : Address :=
  { opening := .shell, host := "ghe.corp.net", separator := ':', owner := "team"
    name := "proposals", suffixed := true, slashed := false
    host_chars := by simp
    separator_mem := by decide
    owner_chars := by decide
    name_chars := by decide }

theorem isPlainName_enterprise : IsPlainName enterprise.name := by
  refine ⟨by decide, fun c hc => ?_⟩
  obtain rfl : 's' = c := Option.some.inj hc
  decide

theorem parse_written_enterprise :
    (IsPlainName enterprise.name ∧ Text.isBlankText " " = true ∧ Text.isBlankText "\n" = true ∧
      parse (" " ++ enterprise.text ++ "\n") none =
        .ok ⟨"team", "proposals", some "ghe.corp.net"⟩) ∧
    (IsShortPart "ethereum" ∧ IsShortPart "EIPs" ∧ Text.isBlankText "" = true ∧
      parse ("" ++ ("ethereum" ++ "/" ++ "EIPs") ++ "") none = .ok ⟨"ethereum", "EIPs", none⟩) ∧
    ("ethereum" ≠ "" ∧ '/' ∉ "ethereum".toList) ∧ "EIPs" ≠ "" ∧ '/' ∉ "EIPs".toList := by
  have howner : IsShortPart "ethereum" := isSlug_iff.1 (by decide +kernel)
  have hname : IsShortPart "EIPs" := isSlug_iff.1 (by decide +kernel)
  have hshort := parse_written.2.1 "ethereum" "EIPs" "" "" howner hname rfl rfl
  exact ⟨⟨isPlainName_enterprise, rfl, rfl,
      parse_written.1 enterprise " " "\n" isPlainName_enterprise rfl rfl⟩,
    ⟨howner, hname, rfl, hshort⟩, parse_written.2.2.2 _ _ hshort⟩

/-! ## The host -/

/-- **The host a reference leads to.** The short form keeps the host that is given beside it. An
address has its own, or none if that is the usual one: a host that is given beside an address on the
usual host is lost, and only that one is neither kept nor overridden. -/
theorem host_of_parse (h : parse text given = .ok r) :
    (IsShort (Text.trim text) → r.host = given) ∧
    (∀ a : Address, Text.trim text = a.text →
      r.host = (if a.host = usualHost then none else some a.host) ∧
        (r.host = (if a.host = usualHost then given else some a.host) ↔
          (a.host = usualHost → given = none))) ∧
    (IsShort (Text.trim text) ∨ IsAddress (Text.trim text)) := by
  have hunique : ∀ s r', Refers given s r' → Text.trim text = s → r = r' := by
    rintro s r' href rfl
    exact Except.ok.inj (h.symm.trans href.parse_eq)
  refine ⟨?_, fun a htext => ?_, exists_refers_iff.1 ⟨r, parse_eq_ok_iff.1 h⟩⟩
  · rintro ⟨owner, name, howner, hname, htext⟩
    rw [hunique _ _ (.short howner hname) htext]
  · obtain ⟨b, hread, hwritten, hhost, -⟩ := a.exists_isRead
    have hr : r.host = if a.host = usualHost then none else some a.host := by
      rw [hunique _ _ (.address b hread) (htext.trans hwritten.symm), ← hhost]
      rfl
    refine ⟨hr, ?_⟩
    rw [hr]
    by_cases husual : a.host = usualHost
    · simp [husual, eq_comm]
    · simp [husual]

/-- The host of the address is there, so the one that is given does not count. -/
theorem host_of_parse_enterprise :
    parse (" " ++ enterprise.text ++ "\n") (some "ghe.example.com") =
        .ok ⟨"team", "proposals", some "ghe.corp.net"⟩ ∧
      Text.trim (" " ++ enterprise.text ++ "\n") = enterprise.text ∧
        (some "ghe.corp.net" =
          if enterprise.host = usualHost then some "ghe.example.com" else some enterprise.host) := by
  have hparse : parse (" " ++ enterprise.text ++ "\n") (some "ghe.example.com") =
      .ok ⟨"team", "proposals", some "ghe.corp.net"⟩ :=
    parse_address rfl rfl isPlainName_enterprise
  have htrim : Text.trim (" " ++ enterprise.text ++ "\n") = enterprise.text :=
    trim_address rfl rfl isPlainName_enterprise
  have hprecedence := ((host_of_parse hparse).2.1 enterprise htrim).2
  exact ⟨hparse, htrim, hprecedence.2 fun husual => absurd husual (by decide)⟩

/-- A repository on the usual host. -/
def usual : Address :=
  { opening := .https, host := "github.com", separator := '/', owner := "ethereum", name := "EIPs"
    suffixed := false, slashed := false
    host_chars := by simp
    separator_mem := by decide
    owner_chars := by decide
    name_chars := by decide }

theorem isPlainName_usual : IsPlainName usual.name := by
  refine ⟨by decide, fun c hc => ?_⟩
  obtain rfl : 's' = c := Option.some.inj hc
  decide

/-- An address on the usual host drops the host that is given beside it. -/
theorem given_host_lost :
    ¬∀ (text : String) (a : Address) (given : Option String) (r : Repository),
      parse text given = .ok r → Text.trim text = a.text →
        r.host = if a.host = usualHost then given else some a.host := by
  intro h
  have hparse : parse ("" ++ usual.text ++ "") (some "ghe.example.com") =
      .ok ⟨"ethereum", "EIPs", none⟩ := parse_address rfl rfl isPlainName_usual
  exact absurd (h _ usual _ _ hparse (trim_address rfl rfl isPlainName_usual)) (by decide)

end ProposalGate.Repository
