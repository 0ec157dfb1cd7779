import Mathlib.Data.List.Basic
import ProposalGate.Encoding
import ProposalGate.Proofs.Text.Blank
import ProposalGate.Proofs.Text.Utf8

/-!
# Decoding undoes encoding

`Encodes` says which contents stand for a document in each of the encodings: the document itself, its
bytes as one character each, as two hexadecimal digits each in either case with blanks around them,
or in Base64 with blanks anywhere. Every document has such a content in every encoding, and it is
decoded to the document (`decode_of_encodes`).

The codecs are inverted on bytes, group by group (`Base64.decode_encode`, `Hex.Spells.decode_eq`); that
the bytes are those of a text is used only at the end, where they are read as one.
-/

namespace ProposalGate

namespace Base64

variable {start index n : Nat} {acc : Tail} {rest : List UInt8}

/-! ## Base64 -/

/-- A symbol stands for its number. -/
theorem sextet?_symbol : ∀ n < 64, sextet? (symbol n) = some n := by
  decide

theorem symbol_ne_pad : ∀ n < 64, symbol n ≠ pad := by
  decide

/-- A symbol before any padding is kept. -/
theorem readTail_symbol (hn : n < 64) (hpads : acc.pads = 0) :
    readTail start index acc (symbol n :: rest) =
      readTail start (index + 1)
        { acc with sextets := acc.sextets ++ [n], last := symbol n } rest := by
  rw [readTail, if_neg (symbol_ne_pad n hn), if_neg (by omega)]
  simp only [sextet?_symbol n hn]

/-- A padding sign in the third place or the fourth is counted, and the first of them remembered. -/
theorem readTail_pad (hindex : 2 ≤ index) :
    readTail start index acc (pad :: rest) =
      readTail start (index + 1)
        { acc with
          pads := acc.pads + 1
          firstPad := if acc.pads = 0 then start + index else acc.firstPad } rest := by
  rw [readTail, if_pos rfl, if_neg (by omega)]

/-- Two symbols and two padding signs hold one byte, if the bits that are left over are zero. -/
theorem decodeTail_two (start : Nat) {a b : Nat} (ha : a < 64) (hb : b < 64) (hlast : b % 16 = 0) :
    decodeTail start [symbol a, symbol b, pad, pad] = .ok [UInt8.ofNat (a * 4 + b / 16)] := by
  have hread : readTail start 0 ⟨[], 0, 0, 0⟩ [symbol a, symbol b, pad, pad] =
      .ok ⟨[a, b], symbol b, 2, start + 2⟩ := by
    rw [readTail_symbol ha rfl, readTail_symbol hb rfl, readTail_pad (by omega),
      readTail_pad (by omega)]
    rfl
  simp [decodeTail, hread, hlast]

/-- Three symbols and a padding sign hold two bytes, if the bits that are left over are zero. -/
theorem decodeTail_three (start : Nat) {a b c : Nat} (ha : a < 64) (hb : b < 64)
    (hc : c < 64) (hlast : c % 4 = 0) :
    decodeTail start [symbol a, symbol b, symbol c, pad] =
      .ok [UInt8.ofNat (a * 4 + b / 16), UInt8.ofNat (b % 16 * 16 + c / 4)] := by
  have hread : readTail start 0 ⟨[], 0, 0, 0⟩ [symbol a, symbol b, symbol c, pad] =
      .ok ⟨[a, b, c], symbol c, 1, start + 3⟩ := by
    rw [readTail_symbol ha rfl, readTail_symbol hb rfl, readTail_symbol hc rfl,
      readTail_pad (by omega)]
    rfl
  simp [decodeTail, hread, hlast]

/-- Four symbols at the end hold three bytes. -/
theorem decodeTail_four {a b c d : Nat} (ha : a < 64) (hb : b < 64) (hc : c < 64) (hd : d < 64) :
    decodeTail start [symbol a, symbol b, symbol c, symbol d] = .ok (triple a b c d) := by
  have hread : readTail start 0 ⟨[], 0, 0, 0⟩ [symbol a, symbol b, symbol c, symbol d] =
      .ok ⟨[a, b, c, d], symbol d, 0, 0⟩ := by
    rw [readTail_symbol ha rfl, readTail_symbol hb rfl, readTail_symbol hc rfl,
      readTail_symbol hd rfl]
    rfl
  simp [decodeTail, hread]

/-- Four symbols give their three bytes, whether or not they are the last. -/
theorem decodeFrom_four {a b c d : Nat} (ha : a < 64) (hb : b < 64) (hc : c < 64) (hd : d < 64)
    {bytes : List UInt8} (hrest : decodeFrom (start + 4) rest = .ok bytes) :
    decodeFrom start (symbol a :: symbol b :: symbol c :: symbol d :: rest) =
      .ok (triple a b c d ++ bytes) := by
  cases rest with
  | nil =>
    obtain rfl : [] = bytes := Except.ok.inj hrest
    exact decodeTail_four ha hb hc hd
  | cons e rest =>
    simp only [decodeFrom, sextet?_symbol _ ha, sextet?_symbol _ hb, sextet?_symbol _ hc,
      sextet?_symbol _ hd, hrest]
    rfl

/-- The numbers of the four symbols hold the bits of the three bytes. -/
theorem triple_sextets (a b c : UInt8) :
    triple (a.toNat / 4) (a.toNat % 4 * 16 + b.toNat / 16) (b.toNat % 16 * 4 + c.toNat / 64)
      (c.toNat % 64) = [a, b, c] := by
  have hb := b.toNat_lt
  have hc := c.toNat_lt
  have hfirst : a.toNat / 4 * 4 + (a.toNat % 4 * 16 + b.toNat / 16) / 16 = a.toNat := by omega
  have hsecond : (a.toNat % 4 * 16 + b.toNat / 16) % 16 * 16
      + (b.toNat % 16 * 4 + c.toNat / 64) / 4 = b.toNat := by omega
  have hthird : (b.toNat % 16 * 4 + c.toNat / 64) % 4 * 64 + c.toNat % 64 = c.toNat := by omega
  rw [triple, hfirst, hsecond, hthird, UInt8.ofNat_toNat, UInt8.ofNat_toNat, UInt8.ofNat_toNat]

/-- A Base64 form is read back group by group, wherever it starts. -/
theorem decodeFrom_encode (start : Nat) (bytes : List UInt8) :
    decodeFrom start (encode bytes) = .ok bytes := by
  fun_induction encode bytes generalizing start with
  | case1 => rfl
  | case2 a =>
    have ha := a.toNat_lt
    have hfirst : a.toNat / 4 * 4 + a.toNat % 4 * 16 / 16 = a.toNat := by omega
    have htail := decodeTail_two start (a := a.toNat / 4) (b := a.toNat % 4 * 16)
      (by omega) (by omega) (by omega)
    rwa [hfirst, UInt8.ofNat_toNat] at htail
  | case3 a b =>
    have ha := a.toNat_lt
    have hb := b.toNat_lt
    have hfirst : a.toNat / 4 * 4 + (a.toNat % 4 * 16 + b.toNat / 16) / 16 = a.toNat := by omega
    have hsecond : (a.toNat % 4 * 16 + b.toNat / 16) % 16 * 16 + b.toNat % 16 * 4 / 4 =
        b.toNat := by omega
    have htail := decodeTail_three start (a := a.toNat / 4)
      (b := a.toNat % 4 * 16 + b.toNat / 16) (c := b.toNat % 16 * 4)
      (by omega) (by omega) (by omega) (by omega)
    rwa [hfirst, hsecond, UInt8.ofNat_toNat, UInt8.ofNat_toNat] at htail
  | case4 a b c rest ih =>
    have ha := a.toNat_lt
    have hb := b.toNat_lt
    have hc := c.toNat_lt
    rw [decodeFrom_four (by omega) (by omega) (by omega) (by omega) (ih (start + 4)),
      triple_sextets]
    rfl

/-- A Base64 form consists of whole groups of four. -/
theorem length_encode_mod (bytes : List UInt8) : (encode bytes).length % 4 = 0 := by
  fun_induction encode bytes with
  | case1 | case2 | case3 => simp
  | case4 a b c rest ih =>
    simp only [List.length_cons]
    omega

/-- **The bytes of a Base64 form are the bytes it was made of.** -/
theorem decode_encode (bytes : List UInt8) : decode (encode bytes) = .ok bytes := by
  have hlength := length_encode_mod bytes
  have hdecode := decodeFrom_encode 0 bytes
  rw [decode]
  split
  -- no byte is left over after the last four
  · rw [if_neg (by omega)]
    exact hdecode
  · next hnone =>
    rw [List.getLast?_eq_none_iff.1 hnone] at hdecode
    exact hdecode

example : encode (Text.utf8 "fooba".toList) = Text.utf8 "Zm9vYmE=".toList := by decide

/-- What a Base64 form consists of. -/
theorem mem_encode {b : UInt8} {bytes : List UInt8} (h : b ∈ encode bytes) :
    b = pad ∨ ∃ n < 64, b = symbol n := by
  fun_induction encode bytes with
  | case1 => simp at h
  | case2 a =>
    have ha := a.toNat_lt
    simp only [List.mem_cons, List.not_mem_nil, or_false, or_self] at h
    rcases h with h | h | h
    · exact .inr ⟨_, by omega, h⟩
    · exact .inr ⟨_, by omega, h⟩
    · exact .inl h
  | case3 a b =>
    have ha := a.toNat_lt
    have hb := b.toNat_lt
    simp only [List.mem_cons, List.not_mem_nil, or_false] at h
    rcases h with h | h | h | h
    · exact .inr ⟨_, by omega, h⟩
    · exact .inr ⟨_, by omega, h⟩
    · exact .inr ⟨_, by omega, h⟩
    · exact .inl h
  | case4 a b c rest ih =>
    have ha := a.toNat_lt
    have hb := b.toNat_lt
    have hc := c.toNat_lt
    simp only [List.mem_cons] at h
    rcases h with h | h | h | h | h
    · exact .inr ⟨_, by omega, h⟩
    · exact .inr ⟨_, by omega, h⟩
    · exact .inr ⟨_, by omega, h⟩
    · exact .inr ⟨_, by omega, h⟩
    · exact ih h

/-- Symbols are visible ASCII characters, and so is the padding sign. -/
theorem isBlank_symbol : ∀ n < 64,
    (symbol n).toNat < 0x80 ∧ Text.isBlank (Char.ofNat (symbol n).toNat) = false := by
  decide

/-- A Base64 form has no blanks of its own, so whatever blank is in a content was put in. -/
theorem isBlank_of_mem_encode {b : UInt8} {bytes : List UInt8} (h : b ∈ encode bytes) :
    b.toNat < 0x80 ∧ Text.isBlank (Char.ofNat b.toNat) = false := by
  rcases mem_encode h with rfl | ⟨n, hn, rfl⟩
  · decide
  · exact isBlank_symbol n hn

end Base64

namespace Hex

/-! ## Hexadecimal digits -/

/-- The two digits of a number below 16. -/
def digits (n : Nat) : List Char :=
  ["0123456789abcdef".toList.getD n '0', "0123456789ABCDEF".toList.getD n '0']

/-- A text consists of two digits for each byte. -/
inductive Spells : List UInt8 → List Char → Prop where
  /-- no byte, no digits -/
  | nil : Spells [] []
  /-- two digits of a byte, each in either case, and those of the other bytes -/
  | cons {byte : UInt8} {bytes : List UInt8} {high low : Char} {cs : List Char} :
      high ∈ digits (byte.toNat / 16) → low ∈ digits (byte.toNat % 16) → Spells bytes cs →
      Spells (byte :: bytes) (high :: low :: cs)

/-- A digit in either case is visible ASCII and stands for its number. -/
theorem digit?_of_mem_digits : ∀ n < 16, ∀ c ∈ digits n,
    c.toNat < 0x80 ∧ Text.isBlank c = false ∧ digit? (UInt8.ofNat c.toNat) = some n := by
  have hall : ∀ n < 16, ((digits n).all fun c => decide (c.toNat < 0x80) && !Text.isBlank c &&
      digit? (UInt8.ofNat c.toNat) == some n) = true := by decide
  simpa [List.all_eq_true, and_assoc] using hall

/-- All bytes can be written in digits. -/
theorem exists_spells (bytes : List UInt8) : ∃ cs, Spells bytes cs := by
  induction bytes with
  | nil => exact ⟨[], .nil⟩
  | cons byte rest ih =>
    obtain ⟨cs, hcs⟩ := ih
    exact ⟨_, .cons List.mem_cons_self List.mem_cons_self hcs⟩

variable {bytes : List UInt8} {cs : List Char}

/-- Digits are not trimmed away. -/
theorem Spells.isBlank_eq_false (h : Spells bytes cs) : ∀ c ∈ cs, Text.isBlank c = false := by
  induction h with
  | nil => simp
  | @cons byte bytes high low cs hhigh hlow _ ih =>
    have hbyte := byte.toNat_lt
    obtain ⟨-, hhigh, -⟩ := digit?_of_mem_digits _ (by omega) _ hhigh
    obtain ⟨-, hlow, -⟩ := digit?_of_mem_digits _ (by omega) _ hlow
    simpa [hhigh, hlow] using ih

end Hex

/-! ## Characters and bytes -/

namespace Text

variable {c : Char} {cs spaced : List Char} {bytes : List UInt8}

/-- One character for each byte. -/
def ofBytes (bytes : List UInt8) : List Char :=
  bytes.map fun b => Char.ofNat b.toNat

theorem toNat_ofNat_byte (b : UInt8) : (Char.ofNat b.toNat).toNat = b.toNat := by
  have hb := b.toNat_lt
  rw [Char.ofNat, dif_pos (.inl (by omega))]
  rfl

/-- The characters made of bytes carry these bytes. -/
theorem map_lowByte_ofBytes (bytes : List UInt8) :
    (ofBytes bytes).map Encoding.lowByte = bytes := by
  rw [ofBytes, List.map_map]
  refine List.map_id'' (fun b => ?_) bytes
  have hb := b.toNat_lt
  rw [Function.comp_apply, Encoding.lowByte, toNat_ofNat_byte, Nat.mod_eq_of_lt (by omega),
    UInt8.ofNat_toNat]

/-- An ASCII character has one byte, its number. -/
theorem utf8_cons (hc : c.toNat < 0x80) : utf8 (c :: cs) = UInt8.ofNat c.toNat :: utf8 cs := by
  have hchar : String.utf8EncodeChar c = [UInt8.ofNat c.toNat] := if_pos (Nat.le_of_lt_succ hc)
  rw [utf8, List.flatMap_cons, hchar, ← utf8, List.singleton_append]

/-- Bytes below 128, taken as characters, have themselves as bytes. -/
theorem utf8_ofBytes (h : ∀ b ∈ bytes, b.toNat < 0x80) : utf8 (ofBytes bytes) = bytes := by
  induction bytes with
  | nil => rfl
  | cons b rest ih =>
    obtain ⟨hb, hrest⟩ := List.forall_mem_cons.1 h
    rw [ofBytes, List.map_cons, utf8_cons (by rwa [toNat_ofNat_byte]), toNat_ofNat_byte,
      UInt8.ofNat_toNat, ← ofBytes, ih hrest]

/-- A text with blanks put in anywhere. -/
inductive Spaced : List Char → List Char → Prop where
  /-- the end of the text -/
  | nil : Spaced [] []
  /-- a blank that is put in -/
  | blank {c : Char} {cs spaced : List Char} :
      isBlank c = true → Spaced cs spaced → Spaced cs (c :: spaced)
  /-- a character of the text -/
  | char {c : Char} {cs spaced : List Char} : Spaced cs spaced → Spaced (c :: cs) (c :: spaced)

theorem Spaced.refl (cs : List Char) : Spaced cs cs := by
  induction cs with
  | nil => exact .nil
  | cons c rest ih => exact .char ih

/-- What was put in can be told from a text without blanks. -/
theorem Spaced.filter_eq (h : Spaced cs spaced) (hcs : ∀ c ∈ cs, isBlank c = false) :
    spaced.filter (!isBlank ·) = cs := by
  induction h with
  | nil => rfl
  | blank hc _ ih => rw [List.filter_cons_of_neg (by simp [hc]), ih hcs]
  | char _ ih =>
    obtain ⟨hc, hrest⟩ := List.forall_mem_cons.1 hcs
    rw [List.filter_cons_of_pos (by simp [hc]), ih hrest]

end Text

namespace Hex

variable {bytes : List UInt8} {cs : List Char}

/-- There are two digits for each byte, so their number is even. -/
theorem Spells.length_utf8 (h : Spells bytes cs) : (Text.utf8 cs).length = 2 * bytes.length := by
  induction h with
  | nil => rfl
  | @cons byte bytes high low cs hhigh hlow _ ih =>
    have hbyte := byte.toNat_lt
    obtain ⟨hhigh, -⟩ := digit?_of_mem_digits _ (by omega) _ hhigh
    obtain ⟨hlow, -⟩ := digit?_of_mem_digits _ (by omega) _ hlow
    rw [Text.utf8_cons hhigh, Text.utf8_cons hlow, List.length_cons, List.length_cons, ih,
      List.length_cons]
    omega

/-- The digits are read pair by pair, wherever they start. -/
theorem Spells.decodeFrom_eq (h : Spells bytes cs) (offset : Nat) :
    decodeFrom offset (Text.utf8 cs) = .ok bytes := by
  induction h generalizing offset with
  | nil => rfl
  | @cons byte bytes high low cs hhigh hlow _ ih =>
    have hbyte := byte.toNat_lt
    obtain ⟨hhigh, -, hhighDigit⟩ := digit?_of_mem_digits _ (by omega) _ hhigh
    obtain ⟨hlow, -, hlowDigit⟩ := digit?_of_mem_digits _ (by omega) _ hlow
    have hvalue : byte.toNat / 16 * 16 + byte.toNat % 16 = byte.toNat := by omega
    rw [Text.utf8_cons hhigh, Text.utf8_cons hlow, decodeFrom]
    simp only [hhighDigit, hlowDigit, ih (offset + 2), hvalue, UInt8.ofNat_toNat]
    rfl

/-- **The bytes of their digits are the bytes.** -/
theorem Spells.decode_eq (h : Spells bytes cs) : decode (Text.utf8 cs) = .ok bytes := by
  have hlength := h.length_utf8
  rw [decode, if_neg (by omega)]
  exact h.decodeFrom_eq 0

end Hex

namespace Encoding

/-! ## Documents -/

/-- A content stands for a document in an encoding. -/
inductive Encodes (document : String) : Encoding → String → Prop where
  /-- content that is text already is the document -/
  | text {encoding : Encoding} : encoding ∈ [.utf8, .utf16le] → Encodes document encoding document
  /-- one character for each byte of the document -/
  | bytes {encoding : Encoding} {content : String} : encoding ∈ [.ascii, .latin1, .binary] →
      content.toList = Text.ofBytes (Text.utf8 document.toList) → Encodes document encoding content
  /-- two digits for each byte of the document, with blanks around them -/
  | hex {content : String} {before digits after : List Char} :
      (∀ c ∈ before, Text.isBlank c = true) → Hex.Spells (Text.utf8 document.toList) digits →
      (∀ c ∈ after, Text.isBlank c = true) → content.toList = before ++ digits ++ after →
      Encodes document .hex content
  /-- the Base64 form of the document's bytes, with blanks anywhere -/
  | base64 {content : String} :
      Text.Spaced (Text.ofBytes (Base64.encode (Text.utf8 document.toList))) content.toList →
      Encodes document .base64 content

variable {document content : String}

/-- Every document can be written in every encoding. -/
theorem exists_encodes (document : String) (encoding : Encoding) :
    ∃ content, Encodes document encoding content := by
  cases encoding with
  | utf8 | utf16le => exact ⟨document, .text (by simp)⟩
  | ascii | latin1 | binary => exact ⟨String.ofList _, .bytes (by simp) String.toList_ofList⟩
  | hex =>
    obtain ⟨digits, hdigits⟩ := Hex.exists_spells (Text.utf8 document.toList)
    have hnone : ∀ c ∈ ([] : List Char), Text.isBlank c = true := by simp
    exact ⟨String.ofList digits, .hex hnone hdigits hnone (by simp)⟩
  | base64 => exact ⟨String.ofList _, .base64 (by rw [String.toList_ofList]; exact .refl _)⟩

theorem text_utf8 (document : String) : text (Text.utf8 document.toList) = document := by
  rw [text, Text.decodeLossy_utf8, String.ofList_toList]

/-- Blanks around the digits of a document do not matter. -/
theorem decode_hex {before digits after : List Char}
    (hbefore : ∀ c ∈ before, Text.isBlank c = true)
    (hdigits : Hex.Spells (Text.utf8 document.toList) digits)
    (hafter : ∀ c ∈ after, Text.isBlank c = true)
    (hcontent : content.toList = before ++ digits ++ after) :
    decode .hex content = .ok document := by
  have hblank := hdigits.isBlank_eq_false
  have htrimmed : Text.trimmed content.toList = digits := by
    rw [hcontent, Text.trimmed_append_blanks hafter, Text.trimmed_blanks_append hbefore]
    exact Text.trimmed_eq_self (fun c hc => hblank c (List.mem_of_head? hc))
      fun c hc => hblank c (List.mem_of_getLast? hc)
  simp only [decode, htrimmed, hdigits.decode_eq, text_utf8]

/-- Blanks anywhere in the Base64 form of a document do not matter. -/
theorem decode_base64
    (h : Text.Spaced (Text.ofBytes (Base64.encode (Text.utf8 document.toList))) content.toList) :
    decode .base64 content = .ok document := by
  have hvisible : ∀ b ∈ Base64.encode (Text.utf8 document.toList),
      b.toNat < 0x80 ∧ Text.isBlank (Char.ofNat b.toNat) = false :=
    fun b => Base64.isBlank_of_mem_encode
  have hfilter := h.filter_eq fun c hc => by
    obtain ⟨b, hb, rfl⟩ := List.mem_map.1 hc
    exact (hvisible b hb).2
  have hbytes := Text.utf8_ofBytes fun b hb => (hvisible b hb).1
  simp only [decode, hfilter, hbytes, Base64.decode_encode, text_utf8]

/-- **Decoding undoes encoding.** Every document has a content in every encoding, and from each of
them it is read back. -/
theorem decode_of_encodes (encoding : Encoding) (document : String) :
    (∃ content, Encodes document encoding content) ∧
      ∀ content, Encodes document encoding content → encoding.decode content = .ok document := by
  refine ⟨exists_encodes document encoding, fun content h => ?_⟩
  cases h with
  | text hencoding =>
    simp only [List.mem_cons, List.not_mem_nil, or_false] at hencoding
    rcases hencoding with rfl | rfl <;> rfl
  | bytes hencoding hcontent =>
    have htext : text (content.toList.map lowByte) = document := by
      rw [hcontent, Text.map_lowByte_ofBytes, text_utf8]
    simp only [List.mem_cons, List.not_mem_nil, or_false] at hencoding
    rcases hencoding with rfl | rfl | rfl <;> simp only [decode, htext]
  | hex hbefore hdigits hafter hcontent => exact decode_hex hbefore hdigits hafter hcontent
  | base64 h => exact decode_base64 h

/-- Two characters of several bytes each, in Base64 with a line break in every group of four. The
bytes of the second character are not in one group. -/
theorem decode_of_encodes_broken :
    Encodes "é€\n" .base64 "w6n\nigqw\r\nK\n" ∧
      decode .base64 "w6n\nigqw\r\nK\n" = .ok "é€\n" := by
  have h : Encodes "é€\n" .base64 "w6n\nigqw\r\nK\n" := by
    refine .base64 ?_
    have hencode : Text.ofBytes (Base64.encode (Text.utf8 "é€\n".toList)) = "w6nigqwK".toList := by
      decide
    rw [hencode]
    exact .char <| .char <| .char <| .blank (by decide) <| .char <| .char <| .char <| .char <|
      .blank (by decide) <| .blank (by decide) <| .char <| .blank (by decide) .nil
  exact ⟨h, (decode_of_encodes .base64 "é€\n").2 _ h⟩

end Encoding

end ProposalGate
