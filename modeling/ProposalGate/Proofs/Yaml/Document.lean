import Mathlib.Data.List.Basic
import ProposalGate.Yaml

/-!
# Mappings that are read have no key twice

Every entry is compared with those before it when it is read, so the keys of a mapping are pairwise
different (`distinctKeys_of_entries?`). A document is a mapping only if one was read, directly or
through an alias; a text never stands for one.
-/

namespace ProposalGate.Yaml

/-- No two entries of a mapping have one key. -/
def DistinctKeys (entries : List (Value × Value)) : Prop :=
  entries.Pairwise fun a b => a.1.same b.1 = false

namespace Document

variable {all pieces rest : List Piece} {fuel depth followed followed' : Nat}
  {entries : List (Value × Value)}

/-- What the next piece of a mapping is: its end, or an entry with a new key. -/
theorem entries?_succ_cases {before : List (Value × Value)} {r : Read (List (Value × Value))}
    (h : entries? all (fuel + 1) depth pieces followed before = some r) :
    (∃ rest, r = (before.reverse, rest, followed)) ∨
      ∃ k v rest' followed', (∀ e ∈ before, e.1.same k = false) ∧
        entries? all fuel depth rest' followed' ((k, v) :: before) = some r := by
  unfold entries? at h
  split at h
  · next rest => exact .inl ⟨rest, (Option.some.inj h).symm⟩
  · split at h
    · exact absurd h (by simp)
    · next k _ _ _ =>
      split at h
      · exact absurd h (by simp)
      · next hfresh =>
        split at h
        · next v _ _ _ => exact .inr ⟨k, v, _, _, by simpa using hfresh, h⟩
        · exact absurd h (by simp)

/-- **The entries read so far have distinct keys**, and so do those that are read from there. -/
theorem distinctKeys_of_entries? {before : List (Value × Value)}
    (h : entries? all fuel depth pieces followed before = some (entries, rest, followed'))
    (hbefore : DistinctKeys before.reverse) : DistinctKeys entries := by
  induction fuel generalizing pieces followed before with
  | zero => simp [entries?] at h
  | succ fuel ih =>
    obtain ⟨_, hend⟩ | ⟨k, v, _, _, hfresh, hnext⟩ := entries?_succ_cases h
    · obtain ⟨rfl, -⟩ := Prod.mk.inj hend
      exact hbefore
    -- the entry goes behind those before it, and its key was compared with theirs
    · refine ih hnext ?_
      rw [List.reverse_cons]
      refine List.pairwise_append.2 ⟨hbefore, List.pairwise_singleton .., fun e he e' he' => ?_⟩
      obtain rfl := List.mem_singleton.1 he'
      exact hfresh e (List.mem_reverse.1 he)

/-! ## Texts are no mappings -/

/-- A tag of its own hides what it is given to. -/
theorem wrap?_eq_mapping {tag : Option (List UInt8)} {v : Value}
    (h : wrap? tag v = some (.mapping entries)) : v = .mapping entries := by
  unfold wrap? at h
  split at h
  · split at h
    · exact absurd h (by simp)
    · exact absurd (Option.some.inj h) (by simp)
  · exact Option.some.inj h

theorem plain?_ne_mapping {text : String} : Scalar.plain? text ≠ some (.mapping entries) := by
  intro h
  unfold Scalar.plain? at h
  split at h
  · cases h
  · split at h
    · cases h
    · split at h
      · cases h
      · cases h
      · split at h <;> cases h

theorem untagged?_ne_mapping {text : String} {plain : Bool} :
    untagged? text plain ≠ some (.mapping entries) := by
  intro h
  unfold untagged? at h
  split at h
  · exact plain?_ne_mapping h
  · cases h

theorem typed?_ne_mapping {bytes : List UInt8} {text : String} {plain : Bool} :
    typed? bytes text plain ≠ some (.mapping entries) := by
  intro h
  unfold typed? at h
  split at h
  · obtain ⟨b, -, hb⟩ := Option.map_eq_some_iff.1 h
    cases hb
  · split at h
    · split at h <;> cases h
    · split at h
      · obtain ⟨x, -, hx⟩ := Option.map_eq_some_iff.1 h
        cases hx
      · split at h
        · split at h <;> cases h
        · split at h
          · exact untagged?_ne_mapping h
          · cases h

/-- A text never stands for a mapping. -/
theorem scalar?_ne_mapping {tag : Option (List UInt8)} {text : String} {plain : Bool} :
    scalar? tag text plain ≠ some (.mapping entries) := by
  intro h
  unfold scalar? at h
  split at h
  · exact typed?_ne_mapping h
  · obtain ⟨v, hv, hw⟩ := Option.bind_eq_some_iff.1 h
    obtain rfl := wrap?_eq_mapping hw
    exact untagged?_ne_mapping hv

/-! ## Documents -/

/-- Where a mapping comes from: another node, by its anchor, or the entries up to its end. -/
theorem value?_mapping_cases
    (h : value? all (fuel + 1) depth pieces followed = some (.mapping entries, rest, followed')) :
    (∃ depth' pieces' followed₁ read,
        value? all fuel depth' pieces' followed₁ = some (.mapping entries, read)) ∨
      ∃ depth' pieces' followed₁ read,
        entries? all fuel depth' pieces' followed₁ [] = some (entries, read) := by
  unfold value? at h
  -- an alias, a text, a sequence, a mapping, and what is no node
  split at h
  · split at h
    · exact absurd h (by simp)
    · split at h
      · exact absurd h (by simp)
      · split at h
        · next v read followed₁ hvalue =>
          obtain ⟨rfl, -⟩ := Prod.mk.inj (Option.some.inj h)
          exact .inl ⟨_, _, _, _, hvalue⟩
        · exact absurd h (by simp)
  · obtain ⟨v, hv, heq⟩ := Option.map_eq_some_iff.1 h
    obtain ⟨rfl, -⟩ := Prod.mk.inj heq
    exact absurd hv scalar?_ne_mapping
  · split at h
    · exact absurd h (by simp)
    · split at h
      · obtain ⟨v, hv, heq⟩ := Option.map_eq_some_iff.1 h
        obtain ⟨rfl, -⟩ := Prod.mk.inj heq
        exact absurd (wrap?_eq_mapping hv) (by simp)
      · exact absurd h (by simp)
  · split at h
    · exact absurd h (by simp)
    · split at h
      · next entries' read followed₁ hentries =>
        obtain ⟨v, hv, heq⟩ := Option.map_eq_some_iff.1 h
        obtain ⟨rfl, -⟩ := Prod.mk.inj heq
        obtain rfl := Value.mapping.inj (wrap?_eq_mapping hv)
        exact .inr ⟨_, _, _, _, hentries⟩
      · exact absurd h (by simp)
  · exact absurd h (by simp)

theorem distinctKeys_of_value?
    (h : value? all fuel depth pieces followed = some (.mapping entries, rest, followed')) :
    DistinctKeys entries := by
  induction fuel generalizing depth pieces followed rest followed' with
  | zero => simp [value?] at h
  | succ fuel ih =>
    rcases value?_mapping_cases h with ⟨_, _, _, _, hvalue⟩ | ⟨_, _, _, _, hentries⟩
    · exact ih hvalue
    · exact distinctKeys_of_entries? hentries .nil

end Document

/-- **A mapping that is read has no key twice.** -/
theorem distinctKeys_of_read? {cs : List Char} (h : read? cs = some (.mapping entries)) :
    DistinctKeys entries := by
  obtain ⟨tokens, -, h⟩ := Option.bind_eq_some_iff.1 h
  obtain ⟨events, -, h⟩ := Option.bind_eq_some_iff.1 h
  obtain ⟨only, -, h⟩ := Option.bind_eq_some_iff.1 h
  obtain ⟨pieces, -, h⟩ := Option.bind_eq_some_iff.1 h
  obtain ⟨⟨v, rest, followed⟩, hvalue, h⟩ := Option.bind_eq_some_iff.1 h
  obtain rfl := Option.some.inj h
  exact Document.distinctKeys_of_value? hvalue

end ProposalGate.Yaml
