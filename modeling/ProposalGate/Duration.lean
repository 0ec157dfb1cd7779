import ProposalGate.Text.Blank

/-!
# Spans of time

The time a call to the forge may take, in whole milliseconds.
-/

namespace ProposalGate

/-- A span of time. -/
structure Duration where
  /-- its length in milliseconds -/
  milliseconds : Nat
  deriving DecidableEq, Repr

namespace Duration

/-- A span of whole seconds. -/
def seconds (n : Nat) : Duration := ⟨n * 1000⟩

/-- Three digits of a number below a thousand, without the zeros at their end. -/
def fractionDigits (n : Nat) : List Char :=
  let digits := [n / 100 % 10, n / 10 % 10, n % 10].map fun d => Char.ofNat (48 + d)
  (digits.reverse.dropWhile (· = '0')).reverse

/-- A span in the largest unit that it fills: seconds with as many decimals as needed, or
milliseconds; no time at all is given in nanoseconds. -/
def text (d : Duration) : String :=
  if d.milliseconds = 0 then "0ns"
  else if d.milliseconds < 1000 then s!"{d.milliseconds}ms"
  else
    let fraction := fractionDigits (d.milliseconds % 1000)
    if fraction.isEmpty then s!"{d.milliseconds / 1000}s"
    else s!"{d.milliseconds / 1000}.{String.ofList fraction}s"

end Duration

end ProposalGate
