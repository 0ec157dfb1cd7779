import ProposalGate.Text.Utf8

/-!
# The bytes of a text are read as that text

Reading is lossy only where bytes are no text. A character of each width is read back from its
bytes (`decodeLossy_utf8EncodeChar_append`): its first byte says how many there are, the ranges that
may follow it leave room for it because it is neither too small for its width nor a surrogate, and
the bits of its number are put together again. So a text is read back from its bytes
(`decodeLossy_utf8`).
-/

namespace ProposalGate.Text

variable {a b c d : UInt8} {rest : List UInt8}

/-! ## Sequences of bytes -/

/-- These bytes lead two; the two below them could only lead what fits into one. -/
theorem leadWidth?_eq_two (h : 0xC2 ≤ a.toNat) (h' : a.toNat < 0xE0) : leadWidth? a = some 2 := by
  rw [leadWidth?, if_neg (by omega), if_neg (by omega), if_pos h']

/-- These bytes lead three. -/
theorem leadWidth?_eq_three (h : 0xE0 ≤ a.toNat) (h' : a.toNat < 0xF0) :
    leadWidth? a = some 3 := by
  rw [leadWidth?, if_neg (by omega), if_neg (by omega), if_neg (by omega), if_pos h']

/-- These bytes lead four, up to the last whose character exists. -/
theorem leadWidth?_eq_four (h : 0xF0 ≤ a.toNat) (h' : a.toNat < 0xF5) : leadWidth? a = some 4 := by
  rw [leadWidth?, if_neg (by omega), if_neg (by omega), if_neg (by omega), if_neg (by omega),
    if_pos h']

theorem isContinuation_iff : isContinuation b ↔ 0x80 ≤ b.toNat ∧ b.toNat ≤ 0xBF := by
  simp [isContinuation]

/-- A continuation may follow, unless it is outside the narrower range of one of four leads. -/
theorem mayFollow_of_isContinuation (h : isContinuation b)
    (hE0 : a.toNat = 0xE0 → 0xA0 ≤ b.toNat) (hED : a.toNat = 0xED → b.toNat ≤ 0x9F)
    (hF0 : a.toNat = 0xF0 → 0x90 ≤ b.toNat) (hF4 : a.toNat = 0xF4 → b.toNat ≤ 0x8F) :
    mayFollow a b := by
  have hb := isContinuation_iff.1 h
  unfold mayFollow
  split
  · next ha => simp [hE0 ha, hb.2]
  · next ha => simp [hED ha, hb.1]
  · next ha => simp [hF0 ha, hb.2]
  · next ha => simp [hF4 ha, hb.1]
  · exact h

theorem decodeLossy_one (ha : leadWidth? a = some 1) :
    decodeLossy (a :: rest) = Char.ofNat a.toNat :: decodeLossy rest := by
  rw [decodeLossy.eq_def]
  simp only [ha]

theorem decodeLossy_two (ha : leadWidth? a = some 2) (hb : isContinuation b) :
    decodeLossy (a :: b :: rest) = char2 a b :: decodeLossy rest := by
  rw [decodeLossy.eq_def]
  simp only [ha, hb, if_true]

/-- The second byte must leave room for three, and the third may be any continuation. -/
theorem decodeLossy_three (ha : leadWidth? a = some 3) (hb : mayFollow a b)
    (hc : isContinuation c) :
    decodeLossy (a :: b :: c :: rest) = char3 a b c :: decodeLossy rest := by
  rw [decodeLossy.eq_def]
  simp only [ha, hb, hc, if_true]

/-- The second byte must leave room for four, and the others may be any continuations. -/
theorem decodeLossy_four (ha : leadWidth? a = some 4) (hb : mayFollow a b)
    (hc : isContinuation c) (hd : isContinuation d) :
    decodeLossy (a :: b :: c :: d :: rest) = char4 a b c d :: decodeLossy rest := by
  rw [decodeLossy.eq_def]
  simp only [ha, hb, hc, hd, if_true]

/-! ## Characters -/

variable {n : Nat}

/-- The byte that carries the last six bits of a number. -/
theorem toNat_tail (n : Nat) : (UInt8.ofNat (n % 64 + 128)).toNat = n % 64 + 128 :=
  UInt8.toNat_ofNat_of_lt' (show _ < 256 by omega)

/-- A byte that carries six bits of a number is a continuation. -/
theorem isContinuation_tail (n : Nat) : isContinuation (UInt8.ofNat (n % 64 + 128)) := by
  rw [isContinuation_iff, toNat_tail]
  omega

/-- A number below 128 is read back from its byte. -/
theorem decodeLossy_width_one (h : n ≤ 0x7F) :
    decodeLossy (UInt8.ofNat n :: rest) = Char.ofNat n :: decodeLossy rest := by
  have hlead : (UInt8.ofNat n).toNat = n := UInt8.toNat_ofNat_of_lt' (show n < 256 by omega)
  have hwidth : leadWidth? (UInt8.ofNat n) = some 1 := if_pos (by omega)
  rw [decodeLossy_one hwidth, hlead]

/-- A number of eleven bits is read back from its two bytes. -/
theorem decodeLossy_width_two (h : 0x7F < n) (h' : n ≤ 0x7FF) :
    decodeLossy (UInt8.ofNat (n / 64 % 32 + 192) :: UInt8.ofNat (n % 64 + 128) :: rest) =
      Char.ofNat n :: decodeLossy rest := by
  have hlead : (UInt8.ofNat (n / 64 % 32 + 192)).toNat = n / 64 % 32 + 192 :=
    UInt8.toNat_ofNat_of_lt' (show _ < 256 by omega)
  have hwidth := leadWidth?_eq_two (a := UInt8.ofNat (n / 64 % 32 + 192)) (by omega) (by omega)
  have hpoint : (n / 64 % 32 + 192) % 32 * 64 + (n % 64 + 128) % 64 = n := by omega
  rw [decodeLossy_two hwidth (isContinuation_tail n), char2, hlead, toNat_tail, hpoint]

/-- Surrogates have no bytes; their lead would be that of a character with a narrower range. -/
theorem decodeLossy_width_three (h : 0x7FF < n) (h' : n ≤ 0xFFFF)
    (hvalid : n < 0xD800 ∨ 0xDFFF < n) :
    decodeLossy (UInt8.ofNat (n / 4096 % 16 + 224) :: UInt8.ofNat (n / 64 % 64 + 128) ::
      UInt8.ofNat (n % 64 + 128) :: rest) = Char.ofNat n :: decodeLossy rest := by
  have hlead : (UInt8.ofNat (n / 4096 % 16 + 224)).toNat = n / 4096 % 16 + 224 :=
    UInt8.toNat_ofNat_of_lt' (show _ < 256 by omega)
  have hsecond := toNat_tail (n / 64)
  have hwidth := leadWidth?_eq_three (a := UInt8.ofNat (n / 4096 % 16 + 224)) (by omega) (by omega)
  have hfollows : mayFollow (UInt8.ofNat (n / 4096 % 16 + 224)) (UInt8.ofNat (n / 64 % 64 + 128)) :=
    mayFollow_of_isContinuation (isContinuation_tail _) (by omega) (by omega) (by omega) (by omega)
  have hpoint : ((n / 4096 % 16 + 224) % 16 * 64 + (n / 64 % 64 + 128) % 64) * 64
      + (n % 64 + 128) % 64 = n := by omega
  rw [decodeLossy_three hwidth hfollows (isContinuation_tail n), char3, hlead, toNat_tail,
    toNat_tail, hpoint]

/-- A number beyond 16 bits is read back from its four bytes, as long as there is a character with
it. -/
theorem decodeLossy_width_four (h : 0xFFFF < n) (h' : n < 0x110000) :
    decodeLossy (UInt8.ofNat (n / 262144 % 8 + 240) :: UInt8.ofNat (n / 4096 % 64 + 128) ::
      UInt8.ofNat (n / 64 % 64 + 128) :: UInt8.ofNat (n % 64 + 128) :: rest) =
        Char.ofNat n :: decodeLossy rest := by
  have hlead : (UInt8.ofNat (n / 262144 % 8 + 240)).toNat = n / 262144 % 8 + 240 :=
    UInt8.toNat_ofNat_of_lt' (show _ < 256 by omega)
  have hsecond := toNat_tail (n / 4096)
  have hwidth := leadWidth?_eq_four (a := UInt8.ofNat (n / 262144 % 8 + 240)) (by omega) (by omega)
  have hfollows : mayFollow (UInt8.ofNat (n / 262144 % 8 + 240))
      (UInt8.ofNat (n / 4096 % 64 + 128)) :=
    mayFollow_of_isContinuation (isContinuation_tail _) (by omega) (by omega) (by omega) (by omega)
  have hpoint : (((n / 262144 % 8 + 240) % 8 * 64 + (n / 4096 % 64 + 128) % 64) * 64
      + (n / 64 % 64 + 128) % 64) * 64 + (n % 64 + 128) % 64 = n := by omega
  rw [decodeLossy_four hwidth hfollows (isContinuation_tail _) (isContinuation_tail n), char4,
    hlead, toNat_tail, toNat_tail, toNat_tail, hpoint]

/-- A character is read back from its bytes. -/
theorem decodeLossy_utf8EncodeChar_append (char : Char) (rest : List UInt8) :
    decodeLossy (String.utf8EncodeChar char ++ rest) = char :: decodeLossy rest := by
  have hvalid : char.toNat < 0xD800 ∨ 0xDFFF < char.toNat ∧ char.toNat < 0x110000 := char.valid
  have hchar : Char.ofNat char.toNat = char := Char.ofNat_toNat char
  have hval : char.val.toNat = char.toNat := rfl
  generalize char.toNat = n at hvalid hchar hval
  subst hchar
  simp only [String.utf8EncodeChar, hval]
  split
  · next h => exact decodeLossy_width_one h
  split
  · next h h' => exact decodeLossy_width_two (Nat.lt_of_not_le h) h'
  split
  · next h h' => exact decodeLossy_width_three (Nat.lt_of_not_le h) h' (by omega)
  · next h => exact decodeLossy_width_four (Nat.lt_of_not_le h) (by omega)

/-- **The bytes of a text are read as that text.** -/
theorem decodeLossy_utf8 (cs : List Char) : decodeLossy (utf8 cs) = cs := by
  induction cs with
  | nil => rfl
  | cons c rest ih => rw [utf8, List.flatMap_cons, decodeLossy_utf8EncodeChar_append, ← utf8, ih]

/-- Bytes are read as a text exactly if they are its bytes. -/
theorem decode?_eq_some_iff {bytes : List UInt8} {cs : List Char} :
    decode? bytes = some cs ↔ bytes = utf8 cs := by
  simp only [decode?, Option.ite_none_right_eq_some, Option.some.injEq]
  constructor
  · rintro ⟨hbytes, rfl⟩
    exact hbytes.symm
  · rintro rfl
    rw [decodeLossy_utf8]
    exact ⟨rfl, rfl⟩

end ProposalGate.Text
