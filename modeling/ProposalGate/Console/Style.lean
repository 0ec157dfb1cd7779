/-!
# Styles

How a text is set off on a terminal: the escape sequences in front of it and behind it.
-/

namespace ProposalGate.Console

/-- A way to set a text off. -/
inductive Style where
  /-- less prominent -/
  | muted
  /-- names and numbers -/
  | accent
  /-- headings -/
  | emphasis
  /-- good results -/
  | success
  /-- findings that block -/
  | warning
  /-- failures -/
  | failure
  deriving DecidableEq, Repr

/-- The escape sequence with a parameter. -/
def sequence (parameter : Nat) : String :=
  s!"\x1b[{parameter}m"

/-- The parameters in front of a text and behind it. -/
def Style.parameters : Style → List Nat × List Nat
  | .muted => ([2], [0])
  | .accent => ([36], [39])
  | .emphasis => ([1], [0])
  | .success => ([32], [39])
  | .warning => ([33], [39])
  | .failure => ([1, 31], [39, 0])

/-- A text set off. -/
def Style.apply (style : Style) (text : String) : String :=
  let (before, after) := style.parameters
  String.join (before.map sequence) ++ text ++ String.join (after.map sequence)

end ProposalGate.Console
