import ProposalGate.Proofs.Encoding

/-!
# Offsets into a text

Offsets count the bytes of a text and may fall inside a character. A text is cut only between
characters (`cut?_eq_some_iff`), so a part of it is a text with the bytes between the offsets
(`utf8_slice?`). An ASCII byte is a character of its own wherever it stands
(`exists_of_getElem?_utf8`), so two of them in a row are always a part (`slice?_pair`).
-/

namespace ProposalGate.Text

variable {a b : UInt8} {c : Char} {cs piece before after : List Char} {i j n : Nat}

theorem utf8_append (cs ds : List Char) : utf8 (cs ++ ds) = utf8 cs ++ utf8 ds :=
  List.flatMap_append

/-- An ASCII byte is a character of its own, and no part of another one. -/
theorem eq_of_mem_utf8EncodeChar (hb : b ∈ String.utf8EncodeChar c) (h : b.toNat < 0x80) :
    c = Char.ofNat b.toNat := by
  have hvalid : c.toNat < 0x110000 := by
    rcases c.valid with h | h
    · exact Nat.lt_trans h (by decide)
    · exact h.2
  have hval : c.val.toNat = c.toNat := rfl
  have hlarge : ∀ n, 0x80 ≤ n → n < 0x100 → b ≠ UInt8.ofNat n := by
    rintro n hn hn' rfl
    rw [UInt8.toNat_ofNat_of_lt' hn'] at h
    omega
  simp only [String.utf8EncodeChar, hval] at hb
  split at hb
  · next hc =>
    obtain rfl := List.mem_singleton.1 hb
    rw [UInt8.toNat_ofNat_of_lt' (show c.toNat < 256 by omega), Char.ofNat_toNat]
  -- all bytes of a wider character are larger
  · exfalso
    split at hb
    · simp only [List.mem_cons, List.not_mem_nil, or_false] at hb
      rcases hb with hb | hb <;> exact hlarge _ (by omega) (by omega) hb
    split at hb
    · simp only [List.mem_cons, List.not_mem_nil, or_false] at hb
      rcases hb with hb | hb | hb <;> exact hlarge _ (by omega) (by omega) hb
    · simp only [List.mem_cons, List.not_mem_nil, or_false] at hb
      rcases hb with hb | hb | hb | hb <;> exact hlarge _ (by omega) (by omega) hb

/-- A byte below 128 is the only byte of its character. -/
theorem utf8EncodeChar_ofNat (h : b.toNat < 0x80) :
    String.utf8EncodeChar (Char.ofNat b.toNat) = [b] := by
  have hascii : (Char.ofNat b.toNat).toNat < 0x80 := by rwa [toNat_ofNat_byte]
  have hchar : String.utf8EncodeChar (Char.ofNat b.toNat) =
      [UInt8.ofNat (Char.ofNat b.toNat).toNat] := if_pos (Nat.le_of_lt_succ hascii)
  rw [hchar, toNat_ofNat_byte, UInt8.ofNat_toNat]

/-! ## Offsets -/

/-- The parts of a text before and behind a byte offset, if it is between characters. -/
def cut? : Nat → List Char → Option (List Char × List Char)
  | 0, cs => some ([], cs)
  | _ + 1, [] => none
  | n + 1, c :: rest =>
    if (String.utf8EncodeChar c).length ≤ n + 1 then
      (cut? (n + 1 - (String.utf8EncodeChar c).length) rest).map fun (before, after) =>
        (c :: before, after)
    else none

/-- The part of a text between two byte offsets, if both are between characters. -/
def slice? (i j : Nat) (cs : List Char) : Option (List Char) := do
  let (_, rest) ← cut? i cs
  let (piece, _) ← cut? (j - i) rest
  return piece

theorem length_utf8_cons (c : Char) (cs : List Char) :
    (utf8 (c :: cs)).length = (String.utf8EncodeChar c).length + (utf8 cs).length := by
  rw [utf8, List.flatMap_cons, List.length_append, ← utf8]

/-- Every character has a byte, so an offset never passes one by. -/
theorem length_utf8EncodeChar_pos (c : Char) : 0 < (String.utf8EncodeChar c).length :=
  List.length_pos_iff.2 String.utf8EncodeChar_ne_nil

/-- A text can be cut at the offsets where a character ends, and nowhere else. -/
theorem cut?_eq_some_iff :
    cut? n cs = some (before, after) ↔ cs = before ++ after ∧ (utf8 before).length = n := by
  fun_induction cut? n cs generalizing before with
  | case1 cs =>
    rw [Option.some.injEq, Prod.mk.injEq]
    constructor
    · rintro ⟨rfl, rfl⟩
      exact ⟨rfl, rfl⟩
    · rintro ⟨hcs, hlength⟩
      cases before with
      | nil => exact ⟨rfl, hcs⟩
      | cons d before =>
        have hpos := length_utf8EncodeChar_pos d
        rw [length_utf8_cons] at hlength
        omega
  | case2 n =>
    refine iff_of_false (by simp) ?_
    rintro ⟨hnil, hlength⟩
    obtain ⟨rfl, -⟩ := List.append_eq_nil_iff.1 hnil.symm
    cases hlength
  | case3 n c rest hwidth ih =>
    rw [Option.map_eq_some_iff]
    constructor
    · rintro ⟨⟨before', after'⟩, hrest, heq⟩
      obtain ⟨rfl, rfl⟩ := Prod.mk.inj heq
      obtain ⟨rfl, hlength⟩ := ih.1 hrest
      exact ⟨rfl, by rw [length_utf8_cons, hlength]; omega⟩
    · rintro ⟨hcs, hlength⟩
      cases before with
      | nil => cases hlength
      | cons d before =>
        obtain ⟨rfl, rfl⟩ := List.cons.inj hcs
        rw [length_utf8_cons] at hlength
        exact ⟨(before, after), ih.2 ⟨rfl, by omega⟩, rfl⟩
  | case4 n c rest hwidth =>
    refine iff_of_false (by simp) ?_
    rintro ⟨hcs, hlength⟩
    cases before with
    | nil => cases hlength
    | cons d before =>
      obtain ⟨rfl, rfl⟩ := List.cons.inj hcs
      rw [length_utf8_cons] at hlength
      omega

/-- A slice is what stands between two such offsets. -/
theorem slice?_eq_some_iff : slice? i j cs = some piece ↔
    ∃ before after, cs = before ++ (piece ++ after) ∧ (utf8 before).length = i ∧
      (utf8 piece).length = j - i := by
  simp only [slice?, Option.pure_def, Option.bind_eq_bind, Option.bind_eq_some_iff, Prod.exists,
    cut?_eq_some_iff, Option.some.injEq]
  constructor
  · rintro ⟨before, _, ⟨rfl, hbefore⟩, _, after, ⟨rfl, hpiece⟩, rfl⟩
    exact ⟨before, after, rfl, hbefore, hpiece⟩
  · rintro ⟨before, after, rfl, hbefore, hpiece⟩
    exact ⟨before, _, ⟨rfl, hbefore⟩, piece, after, ⟨rfl, hpiece⟩, rfl⟩

/-- An ASCII byte is between two offsets that are between characters. -/
theorem exists_of_getElem?_utf8 (hb : (utf8 cs)[i]? = some b) (h : b.toNat < 0x80) :
    ∃ before after, cs = before ++ Char.ofNat b.toNat :: after ∧ (utf8 before).length = i := by
  induction cs generalizing i with
  | nil => simp [utf8] at hb
  | cons c rest ih =>
    have hsplit : utf8 (c :: rest) = String.utf8EncodeChar c ++ utf8 rest := List.flatMap_cons
    rw [hsplit] at hb
    by_cases hi : i < (String.utf8EncodeChar c).length
    · rw [List.getElem?_append_left hi] at hb
      obtain rfl := eq_of_mem_utf8EncodeChar (List.mem_of_getElem? hb) h
      rw [utf8EncodeChar_ofNat h, List.length_singleton] at hi
      exact ⟨[], rest, rfl, by rw [Nat.lt_one_iff.1 hi]; rfl⟩
    · rw [List.getElem?_append_right (by omega)] at hb
      obtain ⟨before, after, rfl, hbefore⟩ := ih hb
      exact ⟨c :: before, after, rfl, by rw [length_utf8_cons, hbefore]; omega⟩

/-- A part of a text has the bytes between its offsets. -/
theorem utf8_slice? (h : slice? i j cs = some piece) :
    utf8 piece = ((utf8 cs).drop i).take (j - i) := by
  obtain ⟨before, after, rfl, rfl, hlength⟩ := slice?_eq_some_iff.1 h
  rw [utf8_append, List.drop_left, utf8_append, ← hlength, List.take_left]

theorem utf8_pair (hascii : a.toNat < 0x80 ∧ b.toNat < 0x80) :
    utf8 [Char.ofNat a.toNat, Char.ofNat b.toNat] = [a, b] := by
  simp [utf8, utf8EncodeChar_ofNat hascii.1, utf8EncodeChar_ofNat hascii.2]

/-- Two ASCII bytes are a part of the text. -/
theorem slice?_pair (ha : (utf8 cs)[i]? = some a) (hb : (utf8 cs)[i + 1]? = some b)
    (hascii : a.toNat < 0x80 ∧ b.toNat < 0x80) :
    slice? i (i + 2) cs = some [Char.ofNat a.toNat, Char.ofNat b.toNat] := by
  obtain ⟨before, rest, rfl, hbefore⟩ := exists_of_getElem?_utf8 ha hascii.1
  have hfirst : (utf8 rest)[0]? = some b := by
    rw [utf8_append, List.getElem?_append_right (by omega), hbefore, utf8, List.flatMap_cons,
      utf8EncodeChar_ofNat hascii.1, ← utf8] at hb
    simpa [show i + 1 - i = 1 by omega] using hb
  obtain ⟨between, after, rfl, hbetween⟩ := exists_of_getElem?_utf8 hfirst hascii.2
  have hnil : between = [] := by
    cases between with
    | nil => rfl
    | cons d between =>
      have hpos := length_utf8EncodeChar_pos d
      rw [length_utf8_cons] at hbetween
      omega
  subst hnil
  refine slice?_eq_some_iff.2 ⟨before, after, rfl, hbefore, ?_⟩
  rw [utf8_pair hascii, List.length_cons, List.length_singleton]
  omega

end ProposalGate.Text
