import ProposalGate.Proofs.Yaml.Document
import ProposalGate.Proofs.Yaml.Value
import ProposalGate.Proposal

/-!
# Which entry an attribute comes from

The attributes of a header have the texts of its keys for their names, and of two with one name the
later one counts. The number, the status, the author list and the title are declared under a text.
The header cannot have that text for a key twice (`Yaml.distinctKeys_of_read?`), but a sequence that
holds nothing else has the same text, so its entry takes the place of the one declared, if it
comes later. `shadow?` is what such an entry puts there.

`get?_policyKey` is the account of all headers: an attribute is the one declared unless there is a
shadow behind it with another text, and it is there without being declared exactly if there is a
shadow. `shadowed` is a header with one.
-/

namespace ProposalGate.Header

open Yaml

variable {document k : String} {entries before after : List (Value × Value)} {v : Value}

/-- The keys that the rules and the names of proposals go by. -/
def policyKeys : List String :=
  [Policy.numberKey, Policy.statusKey, Policy.authorKey, Policy.titleKey]

theorem isName_of_mem_policyKeys (h : k ∈ policyKeys) : IsName k := by
  simp only [policyKeys, List.mem_cons, List.not_mem_nil, or_false] at h
  rcases h with rfl | rfl | rfl | rfl
  all_goals exact ⟨by decide, by decide, by decide, by decide⟩

/-! ## Entries -/

/-- The header of a document is a mapping with these entries. -/
def HasEntries (document : String) (entries : List (Value × Value)) : Prop :=
  ∃ block, blockOf? document.toList = some block ∧
    Yaml.read? (List.intercalate ['\n'] block) = some (.mapping entries)

/-- The text that an entry puts under a key. -/
def textUnder? (k : String) (entry : Value × Value) : Option String :=
  if entry.1.text? = some k then entry.2.text? else none

/-- The text that an entry puts under a key that is not its own: its key is a sequence that has the
other key for its only text. -/
def shadow? (k : String) (entry : Value × Value) : Option String :=
  match entry.1 with
  | .sequence items => if Value.texts items = [k] then entry.2.text? else none
  | _ => none

/-- The attributes are made of the entries, one by one. -/
theorem HasEntries.read_eq (h : HasEntries document entries) :
    read document = ⟨entries.filterMap attribute?⟩ := by
  obtain ⟨block, hblock, hread⟩ := h
  rw [read, readWith, hblock]
  simp only [hread, ofValue]

/-- No two entries of a document have the same key. -/
theorem HasEntries.distinctKeys (h : HasEntries document entries) : DistinctKeys entries := by
  obtain ⟨block, -, hread⟩ := h
  exact Yaml.distinctKeys_of_read? hread

/-- **The last entry with a text under a key** gives the attribute. -/
theorem get?_eq_getLast? (entries : List (Value × Value)) (k : String) :
    get? ⟨entries.filterMap attribute?⟩ k = (entries.filterMap (textUnder? k)).getLast? := by
  rw [get?]
  -- from behind, the first attribute with the name comes from the first entry with the text
  rw [List.getLast?_filterMap, ← List.filterMap_reverse]
  induction entries.reverse with
  | nil => rfl
  | cons entry rest ih =>
    rw [List.findSome?_cons, ← ih]
    cases hkey : entry.1.text? with
    | none => simp [attribute?, textUnder?, hkey]
    | some name =>
      cases hvalue : entry.2.text? with
      | none => simp [attribute?, textUnder?, hkey, hvalue]
      | some text =>
        by_cases hname : name = k
        · simp [attribute?, textUnder?, hkey, hvalue, hname]
        · simp [attribute?, textUnder?, hkey, hvalue, hname]

theorem textUnder?_own : textUnder? k (.text k, v) = v.text? := by
  simp [textUnder?, Value.text?]

/-- What an entry that is not declared under a name puts under it is its shadow. -/
theorem textUnder?_eq_shadow? (hk : IsName k) {entry : Value × Value} (h : entry.1 ≠ .text k) :
    textUnder? k entry = shadow? k entry := by
  unfold textUnder? shadow?
  by_cases hkey : entry.1.text? = some k
  · obtain hown | ⟨items, hitems, htexts⟩ := (Value.text?_eq_some_iff hk).1 hkey
    · exact absurd hown h
    · rw [if_pos hkey, hitems]
      exact (if_pos htexts).symm
  · rw [if_neg hkey]
    split
    · next items hitems =>
      refine (if_neg fun htexts => hkey ?_).symm
      exact (Value.text?_eq_some_iff hk).2 (.inr ⟨items, hitems, htexts⟩)
    · rfl

/-- Where a key is not declared itself, only its shadows are left. -/
theorem filterMap_textUnder? (hk : IsName k) (h : ∀ entry ∈ entries, entry.1 ≠ .text k) :
    entries.filterMap (textUnder? k) = entries.filterMap (shadow? k) :=
  List.filterMap_congr fun entry hentry => textUnder?_eq_shadow? hk (h entry hentry)

/-- No entry behind the one declared under a key is declared under it again. -/
theorem ne_text_of_distinctKeys (h : DistinctKeys (before ++ (.text k, v) :: after)) :
    ∀ entry ∈ after, entry.1 ≠ .text k := by
  intro entry hentry hkey
  -- the declared entry is compared with every entry behind it
  have hne := (List.pairwise_cons.1 (List.pairwise_append.1 h).2.1).1 entry hentry
  rw [hkey] at hne
  exact absurd hne (by simp [Value.same])

/-! ## Attributes -/

/-- A declared key has its own value, unless a later entry is a shadow of it. -/
theorem get?_declared (hk : IsName k) {w : String}
    (h : HasEntries document (before ++ (.text k, v) :: after)) (hv : v.text? = some w) :
    (read document).get? k = some ((after.filterMap (shadow? k)).getLast?.getD w) := by
  rw [h.read_eq, get?_eq_getLast?, List.filterMap_append, List.getLast?_append,
    List.filterMap_cons_some (textUnder?_own.trans hv), List.getLast?_cons,
    filterMap_textUnder? hk (ne_text_of_distinctKeys h.distinctKeys)]
  rfl

/-- A key that is not declared may still have a value, by its shadow. -/
theorem get?_undeclared (hk : IsName k) (h : HasEntries document entries)
    (hnone : ∀ v, (.text k, v) ∉ entries) :
    (read document).get? k = (entries.filterMap (shadow? k)).getLast? := by
  rw [h.read_eq, get?_eq_getLast?, filterMap_textUnder? hk]
  rintro ⟨key, v⟩ hentry rfl
  exact hnone v hentry

/-- **What the header says under a policy key.** What is declared under it counts, unless there are
shadows behind it: then the last of them does. Without a declaration, the last shadow counts. The
status that the rules see is the text that counts, in lower case. -/
theorem get?_policyKey (h : HasEntries document entries) (hk : k ∈ policyKeys) :
    (∀ before v after w, entries = before ++ (.text k, v) :: after → v.text? = some w →
      (read document).get? k = some ((after.filterMap (shadow? k)).getLast?.getD w) ∧
        ((read document).get? k = some w ↔ ∀ u ∈ (after.filterMap (shadow? k)).getLast?, u = w)) ∧
      ((∀ v, (.text k, v) ∉ entries) →
        (read document).get? k = (entries.filterMap (shadow? k)).getLast? ∧
          ((read document).get? k = none ↔ ∀ entry ∈ entries, shadow? k entry = none)) ∧
      (k = Policy.statusKey → ∀ before v after w, entries = before ++ (.text k, v) :: after →
        v.text? = some w → ∀ commit path authors,
          (Proposal.ofVersion (.ofBody commit path document) authors).status =
            some (Text.lowerCase (Text.trim ((after.filterMap (shadow? k)).getLast?.getD w)))) := by
  have hname := isName_of_mem_policyKeys hk
  refine ⟨?_, fun hnone => ?_, ?_⟩
  · rintro before v after w rfl hv
    have hget := get?_declared hname h hv
    refine ⟨hget, ?_⟩
    rw [hget]
    cases (after.filterMap (shadow? k)).getLast? <;> simp
  · have hget := get?_undeclared hname h hnone
    refine ⟨hget, ?_⟩
    rw [hget, List.getLast?_eq_none_iff, List.filterMap_eq_nil_iff]
  · rintro rfl before v after w rfl hv commit path authors
    have hget := get?_declared hname h hv
    simp only [Proposal.ofVersion, Version.ofBody, status?, hget, Option.map_some]

/-! ## A header with a shadow -/

/-- A document that declares the status of a draft. Behind it is an entry whose key is a sequence of
one text, and that text is the key of the status. -/
def shadowed : String :=
  "---\nstatus: Draft\n[status]: Final\n---\n"

/-- The events of its header. -/
def shadowedEvents : List Event := [
  .documentStart, .mappingStart .none, .scalar .none "status" true, .scalar .none "Draft" true,
  .sequenceStart .none, .scalar .none "status" true, .sequenceEnd, .scalar .none "Final" true,
  .mappingEnd, .documentEnd]

theorem ofEvents?_shadowedEvents : Document.ofEvents? shadowedEvents = some (.mapping
    [(.text "status", .text "Draft"), (.sequence [.text "status"], .text "Final")]) := by
  have hstatus : Document.scalar? none "status" true = some (.text "status") := by rfl
  have hdraft : Document.scalar? none "Draft" true = some (.text "Draft") := by rfl
  have hfinal : Document.scalar? none "Final" true = some (.text "Final") := by rfl
  simp [Document.ofEvents?, shadowedEvents, Document.only?, Document.pieces?,
    Document.Names.define, Document.depthLimit, Document.value?, Document.entries?,
    Document.items?, Document.wrap?, Document.ownTag?, Properties.none, Value.same, hstatus,
    hdraft, hfinal]

/-- The second key is a sequence, and reads like the first. -/
theorem hasEntries_shadowed : HasEntries shadowed
    [(.text "status", .text "Draft"), (.sequence [.text "status"], .text "Final")] := by
  refine ⟨["status: Draft".toList, "[status]: Final".toList], by decide +kernel, ?_⟩
  have hevents : (Token.scan? (List.intercalate ['\n']
      ["status: Draft".toList, "[status]: Final".toList])).bind Event.ofTokens? =
        some shadowedEvents := by
    decide +kernel
  obtain ⟨tokens, hscan, htokens⟩ := Option.bind_eq_some_iff.1 hevents
  rw [Yaml.read?, hscan, Option.bind_eq_bind, Option.bind_some, htokens]
  exact ofEvents?_shadowedEvents

/-- The status of the document is not the one it declares. -/
theorem get?_shadowed : (read shadowed).get? Policy.statusKey = some "Final" ∧
    ∀ commit path authors,
      (Proposal.ofVersion (.ofBody commit path shadowed) authors).status = some "final" := by
  obtain ⟨hdeclared, -, hstatus⟩ :=
    get?_policyKey (k := Policy.statusKey) hasEntries_shadowed (by decide)
  refine ⟨(hdeclared [] _ _ _ rfl rfl).1, fun commit path authors => ?_⟩
  rw [hstatus rfl [] _ _ _ rfl rfl commit path authors]
  decide +kernel

/-- An entry under a policy key does not settle what the header says under it. -/
theorem not_get?_eq_declared : ¬ ∀ (document : String) (entries : List (Value × Value)),
    HasEntries document entries → ∀ k ∈ policyKeys, ∀ v w, (.text k, v) ∈ entries →
      v.text? = some w → (read document).get? k = some w := by
  intro h
  have hget := h shadowed _ hasEntries_shadowed Policy.statusKey (by decide) (.text "Draft") "Draft"
    List.mem_cons_self rfl
  exact absurd hget (by decide +kernel)

end ProposalGate.Header
