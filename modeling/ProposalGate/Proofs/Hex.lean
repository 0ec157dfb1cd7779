import Mathlib.Order.Bounds.Basic
import ProposalGate.Decimal.Natural
import ProposalGate.Proofs.Text.Offset

/-!
# Which bytes are hexadecimal text

Hexadecimal text is an even number of digits, and each byte that is read has the value of the two
digits at its place (`Hex.decode_eq_ok_iff`). What is no such text is refused for the first thing
that is wrong with it: an odd number of bytes, or else the first pair that is not two digits
(`Hex.decode_eq_odd_iff`, `Hex.decode_eq_pair_iff`). One of the three is the case for any bytes
(`Hex.decode_cases`), which follows the reading pair by pair.

The pairs are read from bytes. To cut them out of the text by offsets and to read each as a numeral
in base 16 is the same (`Hex.decodeSlices_eq`), although a cut may fall inside a character and a
numeral may have a sign: the one is not a part of the text, and the other is not a digit.
-/

namespace ProposalGate

namespace Hex

variable {a b : UInt8} {bytes rest out : List UInt8} {cs : List Char} {start i n : Nat}

/-! ## Digits -/

/-- A byte is a hexadecimal digit, a letter in either case. -/
def IsDigit (b : UInt8) : Prop :=
  ∃ n < 16, ∃ c ∈ digits n, b = Encoding.lowByte c

/-- A character that stands for a byte has that byte as its low one. -/
theorem lowByte_ofNat (b : UInt8) : Encoding.lowByte (Char.ofNat b.toNat) = b := by
  have hb := b.toNat_lt
  rw [Encoding.lowByte, Text.toNat_ofNat_byte, Nat.mod_eq_of_lt (by omega), UInt8.ofNat_toNat]

theorem ofNat_mem_digits : (∀ n < 10, Char.ofNat (n + 48) ∈ digits n) ∧
    ∀ n < 6, Char.ofNat (n + 97) ∈ digits (n + 10) ∧ Char.ofNat (n + 65) ∈ digits (n + 10) := by
  decide

/-- A byte is read as a digit exactly if it is the byte of a character that writes it. -/
theorem digit?_eq_some_iff :
    digit? b = some n ↔ n < 16 ∧ ∃ c ∈ digits n, b = Encoding.lowByte c := by
  constructor
  · intro h
    obtain ⟨hdecimal, hletter⟩ := ofNat_mem_digits
    suffices hn : n < 16 ∧ Char.ofNat b.toNat ∈ digits n from
      ⟨hn.1, _, hn.2, (lowByte_ofNat b).symm⟩
    rw [digit?] at h
    split at h
    · obtain rfl := Option.some.inj h
      have hmem := hdecimal (b.toNat - 48) (by omega)
      rw [show b.toNat - 48 + 48 = b.toNat by omega] at hmem
      exact ⟨by omega, hmem⟩
    split at h
    · obtain rfl := Option.some.inj h
      have hmem := (hletter (b.toNat - 97) (by omega)).1
      rw [show b.toNat - 97 + 97 = b.toNat by omega,
        show b.toNat - 97 + 10 = b.toNat - 87 by omega] at hmem
      exact ⟨by omega, hmem⟩
    split at h
    · obtain rfl := Option.some.inj h
      have hmem := (hletter (b.toNat - 65) (by omega)).2
      rw [show b.toNat - 65 + 65 = b.toNat by omega,
        show b.toNat - 65 + 10 = b.toNat - 55 by omega] at hmem
      exact ⟨by omega, hmem⟩
    · cases h
  · rintro ⟨hn, c, hc, rfl⟩
    obtain ⟨hascii, -, hdigit⟩ := digit?_of_mem_digits n hn c hc
    rwa [Encoding.lowByte, Nat.mod_eq_of_lt (by omega)]

/-- What is read as a digit is a digit. -/
theorem exists_digit?_iff : (∃ n, digit? b = some n) ↔ IsDigit b := by
  simp only [digit?_eq_some_iff, IsDigit]

/-! ## Faults -/

/-- The offsets of the pairs that are not two digits. -/
def faults (bytes : List UInt8) : Set Nat :=
  {i | i % 2 = 0 ∧ ∃ a b, bytes[i]? = some a ∧ bytes[i + 1]? = some b ∧ ¬ (IsDigit a ∧ IsDigit b)}

/-- The first pair is at fault unless both of its bytes are digits. -/
theorem zero_mem_faults : 0 ∈ faults (a :: b :: rest) ↔ ¬ (IsDigit a ∧ IsDigit b) := by
  simp [faults]

/-- Behind the first pair the faults are those of the rest, two places further. -/
theorem add_two_mem_faults : i + 2 ∈ faults (a :: b :: rest) ↔ i ∈ faults rest := by
  simp [faults]

/-- Where there is no pair there is no fault. -/
theorem not_mem_faults_of_length (h : bytes.length < 2) : i ∉ faults bytes := by
  rintro ⟨-, a, b, -, hb, -⟩
  have hlength := (List.getElem?_eq_some_iff.1 hb).1
  omega

/-- If the first pair is not at fault then every fault is one of the rest. -/
theorem mem_faults_cons (h : IsDigit a ∧ IsDigit b) :
    i ∈ faults (a :: b :: rest) ↔ ∃ j ∈ faults rest, i = j + 2 := by
  constructor
  · intro hi
    match i, hi with
    | 0, hi => exact absurd h (zero_mem_faults.1 hi)
    | 1, hi => exact absurd hi.1 (by decide)
    | j + 2, hi => exact ⟨j, add_two_mem_faults.1 hi, rfl⟩
  · rintro ⟨j, hj, rfl⟩
    exact add_two_mem_faults.2 hj

/-- Pairs are read until the first one that is not two digits. -/
theorem decodeFrom_cases (start : Nat) (bytes : List UInt8) :
    (faults bytes = ∅ ∧ ∃ out, decodeFrom start bytes = .ok out) ∨
      ∃ i, IsLeast (faults bytes) i ∧ decodeFrom start bytes = .error (.pair (start + i)) := by
  fun_induction decodeFrom start bytes with
  | case1 start a b rest x y hy hx ih =>
    have hdigits : IsDigit a ∧ IsDigit b :=
      ⟨exists_digit?_iff.1 ⟨x, hx⟩, exists_digit?_iff.1 ⟨y, hy⟩⟩
    rcases ih with ⟨hnone, out, hout⟩ | ⟨i, ⟨hi, hleast⟩, herror⟩
    · refine .inl ⟨?_, _, by rw [hout]; rfl⟩
      refine Set.eq_empty_iff_forall_notMem.2 fun i hi => ?_
      obtain ⟨j, hj, -⟩ := (mem_faults_cons hdigits).1 hi
      simp [hnone] at hj
    · refine .inr ⟨i + 2, ⟨add_two_mem_faults.2 hi, fun j hj => ?_⟩, ?_⟩
      · obtain ⟨k, hk, rfl⟩ := (mem_faults_cons hdigits).1 hj
        exact Nat.add_le_add_right (hleast hk) 2
      · rw [herror, Nat.add_assoc, Nat.add_comm 2 i]
        rfl
  | case2 start a b rest hdigits =>
    have hfault : ¬ (IsDigit a ∧ IsDigit b) := by
      rw [← exists_digit?_iff, ← exists_digit?_iff]
      rintro ⟨⟨x, hx⟩, y, hy⟩
      exact hdigits x y hx hy
    exact .inr ⟨0, ⟨zero_mem_faults.2 hfault, fun _ _ => Nat.zero_le _⟩, rfl⟩
  | case3 bytes start hshort =>
    refine .inl ⟨Set.eq_empty_iff_forall_notMem.2 fun i => not_mem_faults_of_length ?_, [], rfl⟩
    match bytes, hshort with
    | [], _ => decide
    | [_], _ => simp
    | a :: b :: rest, hshort => exact absurd rfl (hshort a b rest)

/-- **What becomes of bytes**: of an odd number nothing, of an even number what their pairs are up
to the first fault. -/
theorem decode_cases (bytes : List UInt8) :
    (bytes.length % 2 = 1 ∧ decode bytes = .error .odd) ∨
    (bytes.length % 2 = 0 ∧ faults bytes = ∅ ∧ ∃ out, decode bytes = .ok out) ∨
    ∃ i, bytes.length % 2 = 0 ∧ IsLeast (faults bytes) i ∧ decode bytes = .error (.pair i) := by
  rw [decode]
  split
  · next hodd => exact .inl ⟨by omega, rfl⟩
  · next heven =>
    refine .inr ?_
    rcases decodeFrom_cases 0 bytes with ⟨hnone, hout⟩ | ⟨i, hi, herror⟩
    · exact .inl ⟨by omega, hnone, hout⟩
    · exact .inr ⟨i, by omega, hi, by rw [herror, Nat.zero_add]⟩

/-- Decoding complains of the number of digits exactly if it is odd. -/
theorem decode_eq_odd_iff : decode bytes = .error .odd ↔ bytes.length % 2 = 1 := by
  rcases decode_cases bytes with ⟨hodd, h⟩ | ⟨heven, -, out, h⟩ | ⟨i, heven, -, h⟩
  · simp [hodd, h]
  · simp [heven, h]
  · simp [heven, h]

/-- Decoding complains of a pair exactly if it is the first one at fault. -/
theorem decode_eq_pair_iff :
    decode bytes = .error (.pair i) ↔ bytes.length % 2 = 0 ∧ IsLeast (faults bytes) i := by
  rcases decode_cases bytes with ⟨hodd, h⟩ | ⟨heven, hnone, out, h⟩ | ⟨j, heven, hj, h⟩
  · simp [hodd, h]
  · simp [heven, h, hnone, IsLeast]
  · rw [h, Except.error.injEq, Fault.pair.injEq]
    constructor
    · rintro rfl
      exact ⟨heven, hj⟩
    · rintro ⟨-, hi⟩
      exact hj.unique hi

/-- Decoding succeeds exactly if no digit is left over and no pair is at fault. -/
theorem exists_decode_eq_ok_iff :
    (∃ out, decode bytes = .ok out) ↔ bytes.length % 2 = 0 ∧ faults bytes = ∅ := by
  rcases decode_cases bytes with ⟨hodd, h⟩ | ⟨heven, hnone, out, h⟩ | ⟨i, heven, hi, h⟩
  · simp [hodd, h]
  · simp [heven, h, hnone]
  · simp [h, Set.nonempty_iff_ne_empty.1 ⟨i, hi.1⟩]

/-! ## Digits at offsets -/

/-- Every byte is the value of its two digits. -/
structure Digits (out bytes : List UInt8) : Prop where
  /-- there are two digits for each byte -/
  length_eq : bytes.length = 2 * out.length
  /-- the digits of a byte stand at twice its offset -/
  getElem? : ∀ k b, out[k]? = some b →
    ∃ high ∈ digits (b.toNat / 16), ∃ low ∈ digits (b.toNat % 16),
      bytes[2 * k]? = some (Encoding.lowByte high) ∧ bytes[2 * k + 1]? = some (Encoding.lowByte low)

theorem Digits.nil : Digits [] [] :=
  ⟨rfl, fun _ _ h => by simp at h⟩

/-- Two digits in front of others are those of one more byte. -/
theorem Digits.cons {high low : Char} (hhigh : high ∈ digits (b.toNat / 16))
    (hlow : low ∈ digits (b.toNat % 16)) (h : Digits out rest) :
    Digits (b :: out) (Encoding.lowByte high :: Encoding.lowByte low :: rest) where
  length_eq := by
    simp only [List.length_cons, h.length_eq]
    omega
  getElem? k b' hb' := by
    cases k with
    | zero =>
      obtain rfl := Option.some.inj hb'
      exact ⟨high, hhigh, low, hlow, rfl, rfl⟩
    | succ k => exact h.getElem? k b' hb'

/-- The digits of a byte and of others are two digits and then those of the others. -/
theorem Digits.exists_cons (h : Digits (b :: out) bytes) :
    ∃ high ∈ digits (b.toNat / 16), ∃ low ∈ digits (b.toNat % 16), ∃ rest,
      bytes = Encoding.lowByte high :: Encoding.lowByte low :: rest ∧ Digits out rest := by
  obtain ⟨high, hhigh, low, hlow, hfirst, hsecond⟩ := h.getElem? 0 b rfl
  match bytes, hfirst, hsecond with
  | [], hfirst, _ => cases hfirst
  | [_], _, hsecond => cases hsecond
  | _ :: _ :: rest, hfirst, hsecond =>
    obtain rfl := Option.some.inj hfirst
    obtain rfl := Option.some.inj hsecond
    have hlength := h.length_eq
    simp only [List.length_cons] at hlength
    exact ⟨high, hhigh, low, hlow, rest, rfl, by omega, fun k => h.getElem? (k + 1)⟩

/-- Pairs that are read are the digits of what is read. -/
theorem digits_of_decodeFrom (heven : bytes.length % 2 = 0)
    (h : decodeFrom start bytes = .ok out) : Digits out bytes := by
  fun_induction decodeFrom start bytes generalizing out with
  | case1 start a b rest x y hy hx ih =>
    obtain ⟨hx, high, hhigh, rfl⟩ := digit?_eq_some_iff.1 hx
    obtain ⟨hy, low, hlow, rfl⟩ := digit?_eq_some_iff.1 hy
    have hvalue : (UInt8.ofNat (x * 16 + y)).toNat = x * 16 + y :=
      UInt8.toNat_ofNat_of_lt' (show _ < 256 by omega)
    rw [List.length_cons, List.length_cons] at heven
    cases hrest : decodeFrom (start + 2) rest with
    | error e => simp [hrest, Except.map] at h
    | ok tail =>
      rw [hrest] at h
      obtain rfl := Except.ok.inj h
      refine .cons ?_ ?_ (ih (by omega) hrest)
      · rwa [hvalue, show (x * 16 + y) / 16 = x by omega]
      · rwa [hvalue, show (x * 16 + y) % 16 = y by omega]
  | case2 start a b rest hdigits => cases h
  | case3 bytes start hshort =>
    obtain rfl := Except.ok.inj h
    match bytes, hshort with
    | [], _ => exact .nil
    | [_], _ => cases heven
    | a :: b :: rest, hshort => exact absurd rfl (hshort a b rest)

/-- The digits of some bytes are decoded to them, wherever the place is counted from. -/
theorem Digits.decodeFrom_eq (h : Digits out bytes) (start : Nat) :
    decodeFrom start bytes = .ok out := by
  induction out generalizing start bytes with
  | nil =>
    obtain rfl := List.length_eq_zero_iff.1 h.length_eq
    rfl
  | cons b out ih =>
    have hb := b.toNat_lt
    obtain ⟨high, hhigh, low, hlow, rest, rfl, hrest⟩ := h.exists_cons
    have hvalue : b.toNat / 16 * 16 + b.toNat % 16 = b.toNat := by omega
    simp only [decodeFrom, digit?_eq_some_iff.2 ⟨by omega, high, hhigh, rfl⟩,
      digit?_eq_some_iff.2 ⟨by omega, low, hlow, rfl⟩, ih hrest, hvalue, UInt8.ofNat_toNat]
    rfl

/-- **Bytes are read from exactly their digits.** -/
theorem decode_eq_ok_iff : decode bytes = .ok out ↔ Digits out bytes := by
  constructor
  · intro h
    have heven := (exists_decode_eq_ok_iff.1 ⟨out, h⟩).1
    rw [decode, if_neg (by omega)] at h
    exact digits_of_decodeFrom heven h
  · intro h
    have hlength := h.length_eq
    rw [decode, if_neg (by omega)]
    exact h.decodeFrom_eq 0

/-! ## Reading in slices -/

/-- The byte of two digits. -/
def pair? (a b : UInt8) : Option UInt8 := do
  let x ← digit? a
  let y ← digit? b
  return UInt8.ofNat (x * 16 + y)

/-- A pair is a byte exactly if both of its bytes are read as digits of it. -/
theorem pair?_eq_some_iff {v : UInt8} : pair? a b = some v ↔
    ∃ x y, digit? a = some x ∧ digit? b = some y ∧ UInt8.ofNat (x * 16 + y) = v := by
  simp [pair?, Option.bind_eq_some_iff]

/-- Decoding goes on behind a pair, unless that is at fault. -/
theorem decodeFrom_cons (start : Nat) (a b : UInt8) (rest : List UInt8) :
    decodeFrom start (a :: b :: rest) = (pair? a b).elim (.error (.pair start)) fun v =>
      (decodeFrom (start + 2) rest).map (v :: ·) := by
  rw [decodeFrom, pair?]
  cases digit? a with
  | none => rfl
  | some x =>
    cases digit? b with
    | none => rfl
    | some y => rfl

/-- The byte that a numeral in base 16 denotes, which may have a sign. -/
def byte? : List Char → Option UInt8
  | '+' :: cs => (Decimal.below? 16 256 cs).map UInt8.ofNat
  | cs => (Decimal.below? 16 256 cs).map UInt8.ofNat

/-- The byte that the two bytes of text at an offset denote, if they are digits. -/
def pairAt? (cs : List Char) (i : Nat) : Option UInt8 :=
  ((Text.slice? i (i + 2) cs).filter fun pair =>
    (Text.utf8 pair).all fun b => (digit? b).isSome).bind byte?

/-- The bytes that hexadecimal text stands for, read from slices of two bytes each. -/
def decodeSlices (cs : List Char) : Except Fault (List UInt8) :=
  if (Text.utf8 cs).length % 2 ≠ 0 then .error .odd
  else (List.range' 0 ((Text.utf8 cs).length / 2) 2).mapM fun i =>
    (pairAt? cs i).elim (.error (.pair i)) .ok

/-- The characters that write a digit are read as it by a reader of numbers, and none of them is a
sign. -/
theorem decimalDigit?_of_mem_digits : ∀ n < 16, ∀ c ∈ digits n,
    Decimal.digit? 16 c = some n ∧ c ≠ '+' := by
  have hall : ∀ n < 16, ((digits n).all fun c =>
      Decimal.digit? 16 c == some n && c != '+') = true := by
    decide
  simpa [List.all_eq_true] using hall

/-- The bytes that are read as digits are characters on their own. -/
theorem digit?_ascii (h : digit? b = some n) : b.toNat < 0x80 := by
  rw [digit?] at h
  split at h
  · omega
  split at h
  · omega
  split at h
  · omega
  · cases h

theorem ofNat_mem_digits_of_digit? (h : digit? b = some n) :
    n < 16 ∧ Char.ofNat b.toNat ∈ digits n := by
  obtain ⟨hn, c, hc, rfl⟩ := digit?_eq_some_iff.1 h
  obtain ⟨hascii, -, -⟩ := digit?_of_mem_digits n hn c hc
  rw [Encoding.lowByte, Nat.mod_eq_of_lt (by omega),
    UInt8.toNat_ofNat_of_lt' (show c.toNat < 256 by omega), Char.ofNat_toNat]
  exact ⟨hn, hc⟩

/-- Two digits are read as the byte that they make up. -/
theorem byte?_pair {x y : Nat} (hx : digit? a = some x) (hy : digit? b = some y) :
    byte? [Char.ofNat a.toNat, Char.ofNat b.toNat] = some (UInt8.ofNat (x * 16 + y)) := by
  obtain ⟨hx, hmemx⟩ := ofNat_mem_digits_of_digit? hx
  obtain ⟨hy, hmemy⟩ := ofNat_mem_digits_of_digit? hy
  obtain ⟨hhigh, hsign⟩ := decimalDigit?_of_mem_digits x hx _ hmemx
  obtain ⟨hlow, -⟩ := decimalDigit?_of_mem_digits y hy _ hmemy
  have hlt : x * 16 + y < 256 := by omega
  rw [byte?.eq_2 _ fun cs hcs => hsign (List.cons.inj hcs).1]
  simp [Decimal.below?, Decimal.value?, Decimal.valueFrom?, hhigh, hlow, Option.filter, hlt]

/-- Two bytes are read as the two digits they are, and as nothing if they are not. In particular a
character of several bytes is never cut, and the sign that a numeral may have is no digit. -/
theorem pairAt?_eq (ha : (Text.utf8 cs)[i]? = some a) (hb : (Text.utf8 cs)[i + 1]? = some b) :
    pairAt? cs i = pair? a b := by
  cases hpair : pair? a b with
  | some v =>
    obtain ⟨x, y, hx, hy, rfl⟩ := pair?_eq_some_iff.1 hpair
    have hascii := And.intro (digit?_ascii hx) (digit?_ascii hy)
    rw [pairAt?, Text.slice?_pair ha hb hascii, Option.filter_some, Text.utf8_pair hascii]
    simp [hx, hy, byte?_pair hx hy]
  | none =>
    refine Option.eq_none_iff_forall_ne_some.2 fun v hv => ?_
    obtain ⟨pair, hslice, -⟩ := Option.bind_eq_some_iff.1 hv
    obtain ⟨hslice, hall⟩ := Option.filter_eq_some_iff.1 hslice
    have hdrop : (Text.utf8 cs).drop i = a :: b :: (Text.utf8 cs).drop (i + 2) := by
      obtain ⟨hi, rfl⟩ := List.getElem?_eq_some_iff.1 ha
      obtain ⟨hi', rfl⟩ := List.getElem?_eq_some_iff.1 hb
      rw [List.drop_eq_getElem_cons hi, List.drop_eq_getElem_cons hi']
    rw [Text.utf8_slice? hslice, hdrop, show i + 2 - i = 2 by omega] at hall
    simp only [List.take_succ_cons, List.take_zero, List.all_cons, List.all_nil, Bool.and_true,
      Bool.and_eq_true, Option.isSome_iff_exists] at hall
    obtain ⟨⟨x, hx⟩, y, hy⟩ := hall
    rw [pair?_eq_some_iff.2 ⟨x, y, hx, hy, rfl⟩] at hpair
    cases hpair

/-- **Reading slices is reading bytes**: the pairs that are cut out of the text one after the other
are the pairs of its bytes. -/
theorem mapM_pairAt? {m : Nat} (h : ((Text.utf8 cs).drop i).length = 2 * m) :
    ((List.range' i m 2).mapM fun i => (pairAt? cs i).elim (.error (Fault.pair i)) .ok) =
      decodeFrom i ((Text.utf8 cs).drop i) := by
  induction m generalizing i with
  | zero =>
    rw [List.length_eq_zero_iff.1 h]
    rfl
  | succ m ih =>
    match hdrop : (Text.utf8 cs).drop i, h with
    | [_], h => cases h
    | a :: b :: rest, h =>
      have hrest : (Text.utf8 cs).drop (i + 2) = rest := by
        rw [← List.drop_drop, hdrop]
        rfl
      have ha : (Text.utf8 cs)[i]? = some a := by
        rw [← Nat.add_zero i, ← List.getElem?_drop, hdrop]
        rfl
      have hb : (Text.utf8 cs)[i + 1]? = some b := by
        rw [← List.getElem?_drop, hdrop]
        rfl
      rw [List.length_cons, List.length_cons] at h
      rw [List.range'_succ, List.mapM_cons, ih (by rw [hrest]; omega), hrest, pairAt?_eq ha hb,
        decodeFrom_cons]
      cases pair? a b with
      | none => rfl
      | some v => cases decodeFrom (i + 2) rest <;> rfl

/-- **To cut a text at every other byte is to decode its bytes.** A cut inside a character is a
fault, and so is a sign. -/
theorem decodeSlices_eq (cs : List Char) : decodeSlices cs = decode (Text.utf8 cs) := by
  rw [decodeSlices, decode]
  split
  · rfl
  · exact mapM_pairAt? (by rw [List.drop_zero]; omega)

/-! ## Wordings -/

theorem message_odd : Fault.odd.message = "odd number of hex digits" := rfl

theorem message_pair (i : Nat) : (Fault.pair i).message = "invalid hex at offset " ++ toString i :=
  rfl

/-- The two kinds of fault do not read alike. -/
theorem message_odd_ne (i : Nat) : Fault.odd.message ≠ (Fault.pair i).message := by
  rw [message_odd, message_pair]
  refine mt (congrArg (·.toList.head?)) ?_
  simp

/-- A message says which fault it is of. -/
theorem message_injective : Function.Injective Fault.message := by
  intro e f h
  match e, f with
  | .odd, .odd => rfl
  | .odd, .pair i => exact absurd h (message_odd_ne i)
  | .pair i, .odd => exact absurd h.symm (message_odd_ne i)
  | .pair i, .pair j =>
    have hdigits : Nat.toDigits 10 i = Nat.toDigits 10 j := by
      simpa [message_pair, ← String.toList_inj, ToString.toString] using h
    have hij : i = j := calc
      i = Nat.ofDigitChars 10 (Nat.toDigits 10 i) 0 := Nat.ofDigitChars_ten_toDigits.symm
      _ = Nat.ofDigitChars 10 (Nat.toDigits 10 j) 0 := by rw [hdigits]
      _ = j := Nat.ofDigitChars_ten_toDigits
    rw [hij]

end Hex

namespace Encoding

/-- The bytes that have to be digits in hexadecimal content. -/
def hexBytes (content : String) : List UInt8 :=
  Text.utf8 (Text.trimmed content.toList)

/-- What content in an encoding is read as, or the wording of its fault. -/
def reading (encoding : Encoding) (content : String) : Except String String :=
  (decode encoding content).mapError DecodeFault.message

/-- A content in hexadecimal is read as the text of the bytes it is decoded to. -/
theorem reading_hex (content : String) :
    reading .hex content = match Hex.decode (hexBytes content) with
      | .ok bytes => .ok (text bytes)
      | .error fault => .error fault.message := by
  simp only [reading, decode, hexBytes]
  cases Hex.decode (Text.utf8 (Text.trimmed content.toList)) <;> rfl

/-- A content in hexadecimal is refused with the message of what decoding complains of. -/
theorem reading_hex_eq_error_iff (content : String) (fault : Hex.Fault) :
    reading .hex content = .error fault.message ↔ Hex.decode (hexBytes content) = .error fault := by
  rw [reading_hex]
  cases Hex.decode (hexBytes content) with
  | ok bytes => simp
  | error fault' => simp [Hex.message_injective.eq_iff]

/-- A content in hexadecimal is a text exactly if it can be decoded. -/
theorem reading_hex_eq_ok_iff {content s : String} :
    reading .hex content = .ok s ↔
      ∃ out, s = text out ∧ Hex.decode (hexBytes content) = .ok out := by
  rw [reading_hex]
  cases Hex.decode (hexBytes content) with
  | ok bytes => simp [eq_comm]
  | error fault => simp

/-- **Hexadecimal content is read exactly**: it is refused for an odd number of bytes, otherwise for
the first pair of bytes that is not two digits, and otherwise read as the bytes of which those are
the digits. To cut the text at offsets and to read each part as a numeral, which might cut a
character or meet a sign, comes to the same. -/
theorem reading_hex_exact (content : String) :
    (reading .hex content = .error "odd number of hex digits" ↔ (hexBytes content).length % 2 = 1) ∧
    (∀ i : ℕ, reading .hex content = .error s!"invalid hex at offset {i}" ↔
      (hexBytes content).length % 2 = 0 ∧ IsLeast (Hex.faults (hexBytes content)) i) ∧
    ((∃ s, reading .hex content = .ok s) ↔
      (hexBytes content).length % 2 = 0 ∧ Hex.faults (hexBytes content) = ∅) ∧
    (∀ s, reading .hex content = .ok s ↔ ∃ out, s = text out ∧ Hex.Digits out (hexBytes content)) ∧
    Hex.decodeSlices (Text.trimmed content.toList) = Hex.decode (hexBytes content) := by
  refine ⟨?_, fun i => ?_, ?_, fun s => ?_, Hex.decodeSlices_eq _⟩
  · exact (reading_hex_eq_error_iff content .odd).trans Hex.decode_eq_odd_iff
  · exact (reading_hex_eq_error_iff content (.pair i)).trans Hex.decode_eq_pair_iff
  · simp only [reading_hex_eq_ok_iff, ← Hex.exists_decode_eq_ok_iff]
    constructor
    · rintro ⟨-, out, -, hout⟩
      exact ⟨out, hout⟩
    · rintro ⟨out, hout⟩
      exact ⟨_, out, rfl, hout⟩
  · simp only [reading_hex_eq_ok_iff, Hex.decode_eq_ok_iff]

example : reading .hex " 68é\n" = .error "invalid hex at offset 2" := by decide

end Encoding

end ProposalGate
