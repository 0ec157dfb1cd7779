import ProposalGate.Text.Blank

/-!
# Links between pages

An answer that is one page of many names the others in a header: entries between commas, each with
a target and parameters behind semicolons. The header is cut at every comma and semicolon, also at
those inside a target.
-/

namespace ProposalGate.Rest.Link

/-- Whether a header can be read as a text: printable characters, blanks and tabs. -/
def isVisible (value : String) : Bool :=
  value.toList.all fun c => c = '\t' || (32 ≤ c.toNat && c.toNat < 127)

/-- A target without the brackets around it. -/
def bare (cs : List Char) : String :=
  let cs := (Text.trimmed cs).dropWhile (· = '<')
  String.ofList (cs.reverse.dropWhile (· = '>')).reverse

/-- The parameter that marks the next page. -/
def nextMark : List Char := "rel=\"next\"".toList

/-- The target of an entry that is marked as the next page. An entry without parameters has no
mark. -/
def nextOfEntry? (entry : List Char) : Option String :=
  match Text.splitAt ';' entry with
  | [] | [_] => none
  | target :: parameters =>
    if parameters.any (Text.trimmed · = nextMark) then some (bare target) else none

/-- The target of the first entry that is marked as the next page. -/
def next? (value : String) : Option String :=
  if isVisible value then (Text.splitAt ',' value.toList).findSome? nextOfEntry? else none

/-- The relation that a parameter names, quoted or not. -/
def relation? (parameter : List Char) : Option String :=
  (Text.afterStart? "rel=".toList (Text.trimmed parameter)).map fun cs =>
    String.ofList ((cs.dropWhile (· = '"')).reverse.dropWhile (· = '"')).reverse

/-- The relations of an entry, each with the target. -/
def relationsOfEntry (entry : List Char) : List (String × String) :=
  match Text.splitAt ';' entry with
  | [] => []
  | target :: parameters => (parameters.filterMap relation?).map fun name => (name, bare target)

/-- All relations in a header, each with its target. -/
def relations (value : String) : List (String × String) :=
  (Text.splitAt ',' value.toList).flatMap relationsOfEntry

/-- The relations that pages have to each other. -/
def pageRelations : List String := ["first", "prev", "next", "last"]

end ProposalGate.Rest.Link
