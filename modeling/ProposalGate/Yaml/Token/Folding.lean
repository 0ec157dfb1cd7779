import ProposalGate.Yaml.Cursor

/-!
# Line folding

Inside quoted and plain texts a run of blanks and line breaks is folded: blanks on one line stay,
a single line break becomes a space, and of several line breaks the first is dropped. Blanks
around the breaks disappear.
-/

namespace ProposalGate.Yaml

/-- A run of blanks and line breaks. -/
structure Gap where
  /-- the blanks before the first line break -/
  blanks : List Char
  /-- whether there was a line break -/
  broken : Bool
  /-- the first line break, unless it was escaped -/
  first : Option Char
  /-- the other line breaks -/
  others : List Char

namespace Gap

/-- No blank and no line break. -/
def none : Gap := ⟨[], false, .none, []⟩

/-- A line break that stands for nothing. -/
def escaped : Gap := ⟨[], true, .none, []⟩

/-- The text a gap is folded into. -/
def folded (g : Gap) : List Char :=
  if g.broken then
    match g.first with
    | some '\n' => if g.others.isEmpty then [' '] else g.others
    | some c => c :: g.others
    | .none => g.others
  else g.blanks

/-- Reads on through blanks and line breaks. With an indentation given, a tab on a later line
must not stand before it. -/
def read (indent : Option Int) : Nat → Gap → Cursor → Option (Gap × Cursor)
  | 0, gap, c => some (gap, c)
  | fuel + 1, gap, c =>
    match c.peek? with
    | .none => some (gap, c)
    | some ch =>
      if isSpace ch then
        if gap.broken && ch = '\t' && indent.any ((c.column : Int) < ·) then .none
        else if gap.broken then read indent fuel gap (c.skip 1)
        else read indent fuel { gap with blanks := gap.blanks ++ [ch] } (c.skip 1)
      else
        match c.lineBreak? with
        | some (kept, next) =>
          if gap.broken then read indent fuel { gap with others := gap.others ++ [kept] } next
          else read indent fuel ⟨[], true, some kept, []⟩ next
        | .none => some (gap, c)

end Gap

end ProposalGate.Yaml
