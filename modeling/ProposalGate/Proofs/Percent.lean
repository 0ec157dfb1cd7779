import Mathlib.Data.List.Basic
import Mathlib.Data.Option.Basic
import ProposalGate.Decimal.Natural
import ProposalGate.Encoding.Percent
import ProposalGate.Proofs.Text.Offset
import ProposalGate.Proofs.Text.Parts

/-!
# Escaping can be undone

The bytes of a text are read back from its escaped form byte by byte (`unescaped_flatMap_byte`): a
byte that stands for itself is an ASCII character other than the percent sign, and the two digits of
an escaped one give its value. So a segment is read back from its escaped form
(`unescape?_segment`).

An escaped text is made of characters that stand for themselves and of escaped bytes (`Escaped`),
and from this its characters and the digits behind its percent signs are known. No slash is in an
escaped segment, so the segments of an escaped path are those of the path (`splitAt_path`).
-/

namespace ProposalGate.Percent

variable {c : Char} {cs ds rest piece : List Char} {b : UInt8}

/-! ## Reading what was escaped -/

/-- The bytes of a text in which escaped bytes stand for themselves. A percent sign without two
digits behind it is no escape. -/
def unescaped : List Char → List UInt8
  | '%' :: a :: b :: rest =>
    match Decimal.digit? 16 a, Decimal.digit? 16 b with
    | some x, some y => UInt8.ofNat (x * 16 + y) :: unescaped rest
    | _, _ => String.utf8EncodeChar '%' ++ unescaped (a :: b :: rest)
  | c :: rest => String.utf8EncodeChar c ++ unescaped rest
  | [] => []

/-- The text that was escaped, if it was one. -/
def unescape? (cs : List Char) : Option (List Char) :=
  Text.decode? (unescaped cs)

theorem digit_mem : ∀ n < 16, digit n ∈ "0123456789ABCDEF".toList := by
  decide

/-- A capital hexadecimal digit is read as the number it is of. -/
theorem digit?_digit : ∀ n < 16, Decimal.digit? 16 (digit n) = some n := by
  decide

/-- An escape stands for its byte, whatever follows. -/
theorem unescaped_escape (b : UInt8) (rest : List Char) :
    unescaped (escape b ++ rest) = b :: unescaped rest := by
  have hb := b.toNat_lt
  have hvalue : b.toNat / 16 * 16 + b.toNat % 16 = b.toNat := by omega
  simp only [escape, List.cons_append, List.nil_append, unescaped,
    digit?_digit _ (show b.toNat / 16 < 16 by omega),
    digit?_digit _ (show b.toNat % 16 < 16 by omega), hvalue, UInt8.ofNat_toNat]

/-- Any character but a percent sign stands for its own bytes. -/
theorem unescaped_cons (hc : c ≠ '%') (rest : List Char) :
    unescaped (c :: rest) = String.utf8EncodeChar c ++ unescaped rest := by
  rw [unescaped.eq_def]
  split
  · next heq => exact absurd (List.cons.inj heq).1 hc
  · next heq =>
    obtain ⟨rfl, rfl⟩ := List.cons.inj heq
    rfl
  · next heq => cases heq

/-! ## Characters of a segment -/

/-- Whether a character stands for itself in a segment. -/
def isKept (c : Char) : Bool :=
  c.isAlphanum || c = '-' || c = '_' || c = '.' || c = '~'

/-- Letters, digits and four more characters stand for themselves. -/
theorem isKept_iff : isKept c = true ↔ c.isAlphanum = true ∨ c ∈ ['-', '_', '.', '~'] := by
  simp [isKept, or_assoc]

theorem isKept_of_isUnreserved : ∀ n < 256, isUnreserved (UInt8.ofNat n) = true →
    n < 0x80 ∧ isKept (Char.ofNat n) = true := by
  decide +kernel

/-- A byte that is never escaped is a character on its own, and one that stands for itself. -/
theorem isKept_ofNat (h : isUnreserved b = true) :
    b.toNat < 0x80 ∧ isKept (Char.ofNat b.toNat) = true :=
  isKept_of_isUnreserved b.toNat b.toNat_lt (by rwa [UInt8.ofNat_toNat])

theorem ne_percent_of_isUnreserved (h : isUnreserved b = true) : Char.ofNat b.toNat ≠ '%' := by
  intro hpercent
  have hkept := (isKept_ofNat h).2
  rw [hpercent] at hkept
  exact absurd hkept (by decide)

theorem isKept_digit : ∀ n < 16, isKept (digit n) = true := by
  decide

/-- No escape hides in the digits of another. -/
theorem digit_ne_percent : ∀ n < 16, digit n ≠ '%' := by
  decide

/-- The characters of one byte: the one it is of, or its escape. -/
def byte (b : UInt8) : List Char :=
  if isUnreserved b then [Char.ofNat b.toNat] else escape b

theorem segment_eq (cs : List Char) : segment cs = (Text.utf8 cs).flatMap byte := rfl

/-- The characters of a byte stand for it, whatever follows. -/
theorem unescaped_byte_append (b : UInt8) (rest : List Char) :
    unescaped (byte b ++ rest) = b :: unescaped rest := by
  rw [byte]
  split
  · next h =>
    rw [List.singleton_append, unescaped_cons (ne_percent_of_isUnreserved h),
      Text.utf8EncodeChar_ofNat (isKept_ofNat h).1]
    rfl
  · exact unescaped_escape b rest

/-- Escaped bytes are read back. -/
theorem unescaped_flatMap_byte (bytes : List UInt8) : unescaped (bytes.flatMap byte) = bytes := by
  induction bytes with
  | nil => rfl
  | cons b rest ih => rw [List.flatMap_cons, unescaped_byte_append, ih]

/-- **A segment is read back from its escaped form.** -/
theorem unescape?_segment (cs : List Char) : unescape? (segment cs) = some cs := by
  rw [unescape?, segment_eq, unescaped_flatMap_byte, Text.decode?_eq_some_iff]

/-! ## Percent signs -/

/-- A text of some characters that stand for themselves and of escaped bytes. -/
inductive Escaped (plain : Char → Bool) : List Char → Prop where
  | nil : Escaped plain []
  /-- a character that stands for itself -/
  | plain {c : Char} {cs : List Char} : plain c = true → Escaped plain cs → Escaped plain (c :: cs)
  /-- an escaped byte -/
  | byte (b : UInt8) {cs : List Char} : Escaped plain cs → Escaped plain (escape b ++ cs)

namespace Escaped

variable {plain plain' : Char → Bool}

/-- It does not matter if more characters may stand for themselves. -/
theorem mono (h : Escaped plain cs) (hplain : ∀ c, plain c = true → plain' c = true) :
    Escaped plain' cs := by
  induction h with
  | nil => exact .nil
  | plain hc _ ih => exact .plain (hplain _ hc) ih
  | byte b _ ih => exact .byte b ih

/-- Two such texts make up another. -/
theorem append (h : Escaped plain cs) (h' : Escaped plain ds) : Escaped plain (cs ++ ds) := by
  induction h with
  | nil => exact h'
  | plain hc _ ih => exact .plain hc ih
  | byte b _ ih =>
    rw [List.append_assoc]
    exact .byte b ih

/-- Such texts with a character that stands for itself between them make up another. -/
theorem intercalate {pieces : List (List Char)} (hc : plain c = true)
    (h : ∀ piece ∈ pieces, Escaped plain piece) : Escaped plain ([c].intercalate pieces) := by
  induction pieces with
  | nil => exact .nil
  | cons piece rest ih =>
    obtain ⟨hpiece, hrest⟩ := List.forall_mem_cons.1 h
    cases rest with
    | nil =>
      rw [List.intercalate_singleton]
      exact hpiece
    | cons piece' rest =>
      rw [List.intercalate_cons_cons]
      exact (hpiece.append (.plain hc .nil)).append (ih hrest)

/-- The other characters are percent signs and digits. -/
theorem mem (h : Escaped plain cs) (hc : c ∈ cs) : plain c = true ∨ isKept c = true ∨ c = '%' := by
  induction h with
  | nil => cases hc
  | plain hd _ ih =>
    rcases List.mem_cons.1 hc with rfl | hc
    · exact .inl hd
    · exact ih hc
  | byte b _ ih =>
    have hb := b.toNat_lt
    rcases List.mem_append.1 hc with hc | hc
    · simp only [escape, List.mem_cons, List.not_mem_nil, or_false] at hc
      rcases hc with rfl | rfl | rfl
      · exact .inr (.inr rfl)
      · exact .inr (.inl (isKept_digit _ (by omega)))
      · exact .inr (.inl (isKept_digit _ (by omega)))
    · exact ih hc

/-- **Two digits follow every percent sign.** -/
theorem digits (h : Escaped plain cs) (hpercent : plain '%' = false) {before after : List Char}
    (hcs : cs = before ++ '%' :: after) :
    ∃ m < 16, ∃ n < 16, ∃ rest, after = digit m :: digit n :: rest := by
  induction h generalizing before with
  | nil => simp at hcs
  | plain hc _ ih =>
    cases before with
    | nil =>
      obtain ⟨rfl, -⟩ := List.cons.inj hcs
      simp [hpercent] at hc
    | cons d before => exact ih (List.cons.inj hcs).2
  | byte b _ ih =>
    have hb := b.toNat_lt
    rw [escape, List.cons_append, List.cons_append, List.cons_append, List.nil_append] at hcs
    -- the percent sign is that of this byte or behind it, for it is no digit
    match before, hcs with
    | [], hcs => exact ⟨_, by omega, _, by omega, _, (List.cons.inj hcs).2.symm⟩
    | [_], hcs =>
      exact absurd (List.cons.inj (List.cons.inj hcs).2).1 (digit_ne_percent _ (by omega))
    | [_, _], hcs =>
      exact absurd (List.cons.inj (List.cons.inj (List.cons.inj hcs).2).2).1
        (digit_ne_percent _ (by omega))
    | _ :: _ :: _ :: before, hcs =>
      exact ih (List.cons.inj (List.cons.inj (List.cons.inj hcs).2).2).2

end Escaped

/-- A segment is escaped but for the characters that stand for themselves. -/
theorem escaped_segment (cs : List Char) : Escaped isKept (segment cs) := by
  rw [segment_eq]
  induction Text.utf8 cs with
  | nil => exact .nil
  | cons b rest ih =>
    rw [List.flatMap_cons]
    refine .append ?_ ih
    rw [byte]
    split
    · next h => exact .plain (isKept_ofNat h).2 .nil
    · exact .byte b .nil

/-- An escaped segment is a single one: there is no slash in it. -/
theorem slash_not_mem_segment (cs : List Char) : '/' ∉ segment cs := fun h =>
  absurd ((escaped_segment cs).mem h) (by decide)

/-! ## Paths -/

variable {p q : String}

/-- Whether a character stands for itself in a path. -/
def isKeptInPath (c : Char) : Bool :=
  isKept c || c = '/'

theorem toList_path (p : String) :
    (path p).toList = ['/'].intercalate ((Text.splitAt '/' p.toList).map segment) :=
  String.toList_ofList

/-- A path is escaped but for those characters and the slashes. -/
theorem escaped_path (p : String) : Escaped isKeptInPath (path p).toList := by
  rw [toList_path]
  refine .intercalate (by decide) fun piece hpiece => ?_
  obtain ⟨cs, -, rfl⟩ := List.mem_map.1 hpiece
  exact (escaped_segment cs).mono fun c hc => by simp [isKeptInPath, hc]

/-- The characters of an escaped path. -/
theorem mem_path (hc : c ∈ (path p).toList) :
    c.isAlphanum = true ∨ c ∈ ['-', '_', '.', '~', '%', '/'] := by
  have hkept : isKept c = true ∨ c ∈ ['%', '/'] := by
    rcases (escaped_path p).mem hc with h | h | rfl
    · refine (Bool.or_eq_true_iff.1 h).imp_right fun hslash => ?_
      rw [of_decide_eq_true hslash]
      simp
    · exact .inl h
    · simp
  rcases hkept with h | h
  · exact (isKept_iff.1 h).imp_right (List.mem_append_left _)
  · exact .inr (List.mem_append_right ['-', '_', '.', '~'] h)

/-- The segments of an escaped path are those of the path, each escaped. -/
theorem splitAt_path (p : String) :
    Text.splitAt '/' (path p).toList = (Text.splitAt '/' p.toList).map segment := by
  rw [toList_path, Text.splitAt_eq_splitOn, List.splitOn_intercalate]
  · intro piece hpiece
    obtain ⟨cs, -, rfl⟩ := List.mem_map.1 hpiece
    exact slash_not_mem_segment cs
  · rw [Text.splitAt_eq_splitOn]
    exact mt List.map_eq_nil_iff.1 (List.splitOn_ne_nil _ _)

/-- The segments of an escaped path are read back as those of the path. -/
theorem map_unescape?_path (p : String) :
    (Text.splitAt '/' (path p).toList).map unescape? = (Text.splitAt '/' p.toList).map some := by
  rw [splitAt_path, List.map_map]
  exact List.map_congr_left fun cs _ => unescape?_segment cs

/-- Different paths are escaped differently. -/
theorem path_injective : Function.Injective path := by
  intro p q h
  have hsome : (Text.splitAt '/' p.toList).map some = (Text.splitAt '/' q.toList).map some := by
    rw [← map_unescape?_path, ← map_unescape?_path, h]
  have hsplit : p.toList.splitOn '/' = q.toList.splitOn '/' := by
    rw [← Text.splitAt_eq_splitOn, ← Text.splitAt_eq_splitOn]
    exact List.map_injective_iff.2 (Option.some_injective _) hsome
  have hp : ['/'].intercalate (p.toList.splitOn '/') = p.toList := List.intercalate_splitOn '/'
  rw [← String.toList_inj, ← hp, hsplit, List.intercalate_splitOn]

/-- **Escaping a path can be undone and is safe.** Its segments are read back from those of the
escaped path, so different paths stay different and keep their numbers of segments. The escaped path
has but a few characters, which neither begin a query nor a fragment, and each percent sign is that
of two digits. -/
theorem path_reversible (p : String) :
    (Text.splitAt '/' (path p).toList).map unescape? = (Text.splitAt '/' p.toList).map some ∧
    (∀ c ∈ (path p).toList, c.isAlphanum ∨ c ∈ ['-', '_', '.', '~', '%', '/']) ∧
    (∀ before after : List Char, (path p).toList = before ++ '%' :: after →
      ∃ a ∈ "0123456789ABCDEF".toList, ∃ b ∈ "0123456789ABCDEF".toList, ∃ rest,
        after = a :: b :: rest) ∧
    (∀ q, path q = path p → q = p) ∧
    '?' ∉ (path p).toList ∧ '#' ∉ (path p).toList ∧
    (Text.splitAt '/' (path p).toList).length = (Text.splitAt '/' p.toList).length := by
  refine ⟨map_unescape?_path p, fun c hc => mem_path hc, fun before after hpath => ?_,
    fun q h => path_injective h, fun h => absurd (mem_path h) (by decide),
    fun h => absurd (mem_path h) (by decide), ?_⟩
  · obtain ⟨m, hm, n, hn, rest, rfl⟩ := (escaped_path p).digits (by decide) hpath
    exact ⟨_, digit_mem m hm, _, digit_mem n hn, rest, rfl⟩
  · rw [splitAt_path, List.length_map]

/-- The blank is escaped and can be told from any other way to come to this path. -/
theorem path_reversible_blank : path "docs/a b.md" = "docs/a%20b.md" ∧
    ∀ q, path q = path "docs/a b.md" → q = "docs/a b.md" := by
  obtain ⟨-, -, -, hinjective, -⟩ := path_reversible "docs/a b.md"
  exact ⟨by decide, hinjective⟩

end ProposalGate.Percent
