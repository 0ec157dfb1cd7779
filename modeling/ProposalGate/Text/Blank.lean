import ProposalGate.Text.Range

/-!
# Blanks and lines

Blank characters are those with the white-space property of the character database, so a
no-break space or an ideographic space is trimmed like a space. A line ends at a line feed; a
carriage return just before it belongs to the line ending and not to the line.
-/

namespace ProposalGate.Text

/-- The white-space characters. -/
def blankRanges : Ranges := [
  (9, 13), (32, 32), (133, 133), (160, 160), (5760, 5760), (8192, 8202), (8232, 8233),
  (8239, 8239), (8287, 8287), (12288, 12288)]

/-- Whether a character is white space. -/
def isBlank (c : Char) : Bool :=
  blankRanges.contains c.toNat

/-- A text without its leading blanks. -/
def trimStart (cs : List Char) : List Char :=
  cs.dropWhile isBlank

/-- A text without its trailing blanks. -/
def trimEnd (cs : List Char) : List Char :=
  (cs.reverse.dropWhile isBlank).reverse

/-- A text without the blanks around it. -/
def trimmed (cs : List Char) : List Char :=
  trimEnd (trimStart cs)

/-- A text without the blanks around it. -/
def trim (s : String) : String :=
  String.ofList (trimmed s.toList)

/-- Whether a text holds nothing but blanks. -/
def isBlankText (s : String) : Bool :=
  s.toList.all isBlank

/-! ## Lines -/

/-- A line read backwards, without the carriage return that ends it. -/
def dropReturn : List Char → List Char
  | '\r' :: line => line
  | line => line

/-- The lines of a text, given the part of the current line already read, last character first.
A text that ends in a line feed has no empty line after it, and a carriage return at the very end
of a text without a line feed stays. -/
def linesFrom (line : List Char) : List Char → List (List Char)
  | [] => if line.isEmpty then [] else [line.reverse]
  | c :: rest =>
    if c = '\n' then (dropReturn line).reverse :: linesFrom [] rest
    else linesFrom (c :: line) rest

/-- The lines of a text, without their endings. -/
def lines (cs : List Char) : List (List Char) :=
  linesFrom [] cs

/-! ## Pieces between separators -/

/-- The pieces of a list between the elements that satisfy `sep`, at least one, given the part of
the current piece already read, last element first. -/
def splitFrom {α : Type} (sep : α → Bool) (piece : List α) : List α → List (List α)
  | [] => [piece.reverse]
  | c :: rest =>
    if sep c then piece.reverse :: splitFrom sep [] rest else splitFrom sep (c :: piece) rest

/-- The pieces of a text between the occurrences of a character; one more than there are
occurrences. -/
def splitAt (sep : Char) (cs : List Char) : List (List Char) :=
  splitFrom (· = sep) [] cs

/-- What follows a given beginning of a text, if the text begins that way. -/
def afterStart? : List Char → List Char → Option (List Char)
  | [], cs => some cs
  | _ :: _, [] => none
  | p :: start, c :: cs => if p = c then afterStart? start cs else none

/-- What precedes a given end of a text, if the text ends that way. -/
def beforeEnd? (ending cs : List Char) : Option (List Char) :=
  (afterStart? ending.reverse cs.reverse).map List.reverse

end ProposalGate.Text
