import ProposalGate.Encoding.Base64
import ProposalGate.Encoding.Hex
import ProposalGate.Text.Blank
import ProposalGate.Text.Utf8

/-!
# Declared encodings

A file's content arrives as text with a declared encoding. Only the encodings listed here are
read; content in any other is refused before it is looked at. Text encodings are already decoded
by the transport, the byte encodings of one character per byte keep the low byte of each
character, and Base64 and hexadecimal text are decoded. Bytes become text with a replacement
character for what is no text.
-/

namespace ProposalGate

/-- The encodings that content may declare. -/
inductive Encoding where
  /-- seven-bit text -/
  | ascii
  /-- UTF-8 text -/
  | utf8
  /-- UTF-16 text -/
  | utf16le
  /-- Base64 text of bytes -/
  | base64
  /-- hexadecimal text of bytes -/
  | hex
  /-- one byte per character -/
  | latin1
  /-- another name for one byte per character -/
  | binary
  deriving DecidableEq, Repr

/-- Why content is not what its encoding says. -/
inductive DecodeFault where
  /-- not Base64 -/
  | base64 (fault : Base64.Fault)
  /-- not hexadecimal -/
  | hex (fault : Hex.Fault)
  deriving DecidableEq, Repr

/-- The wording of a fault. -/
def DecodeFault.message : DecodeFault → String
  | .base64 fault => fault.message
  | .hex fault => fault.message

namespace Encoding

/-- A text with its ASCII capitals made small, all other characters as they are. -/
def asciiLower (s : String) : String :=
  String.ofList (s.toList.map Char.toLower)

/-- The encoding of a declared name, in any mixture of cases; `none` outside the list. -/
def ofName? (name : String) : Option Encoding :=
  match asciiLower name with
  | "ascii" => some .ascii
  | "utf8" | "utf-8" => some .utf8
  | "utf16le" | "utf-16le" | "ucs2" | "ucs-2" => some .utf16le
  | "base64" => some .base64
  | "hex" => some .hex
  | "latin1" => some .latin1
  | "binary" => some .binary
  | _ => none

/-- The names of an encoding, in lower case. -/
def names : Encoding → List String
  | .ascii => ["ascii"]
  | .utf8 => ["utf8", "utf-8"]
  | .utf16le => ["utf16le", "utf-16le", "ucs2", "ucs-2"]
  | .base64 => ["base64"]
  | .hex => ["hex"]
  | .latin1 => ["latin1"]
  | .binary => ["binary"]

/-- An encoding is declared by its names and by no others. -/
theorem ofName?_eq_some_iff {name : String} {encoding : Encoding} :
    ofName? name = some encoding ↔ asciiLower name ∈ encoding.names := by
  rw [ofName?.eq_def]
  split <;> cases encoding <;> simp_all [names]

/-- The low byte of a character. -/
def lowByte (c : Char) : UInt8 :=
  UInt8.ofNat (c.toNat % 256)

/-- The text of some bytes. -/
def text (bytes : List UInt8) : String :=
  String.ofList (Text.decodeLossy bytes)

/-- The text that content in this encoding stands for. Base64 may be broken by blanks anywhere,
hexadecimal text may be surrounded by them. -/
def decode (encoding : Encoding) (content : String) : Except DecodeFault String :=
  match encoding with
  | .utf8 | .utf16le => .ok content
  | .base64 =>
    match Base64.decode (Text.utf8 (content.toList.filter (!Text.isBlank ·))) with
    | .ok bytes => .ok (text bytes)
    | .error fault => .error (.base64 fault)
  | .hex =>
    match Hex.decode (Text.utf8 (Text.trimmed content.toList)) with
    | .ok bytes => .ok (text bytes)
    | .error fault => .error (.hex fault)
  | .ascii | .latin1 | .binary => .ok (text (content.toList.map lowByte))

end Encoding

end ProposalGate
