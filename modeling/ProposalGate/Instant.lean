import ProposalGate.Decimal.Natural
import ProposalGate.Decimal.Reading
import ProposalGate.Text.Blank

/-!
# Instants

A point in time, written as a date, a time of day and the offset of the clock it was read from.
Instants are compared as points in time, whatever the offset. A leap second is the last second of
its minute with more than a second's worth of nanoseconds.
-/

namespace ProposalGate

/-- A point in time. -/
structure Instant where
  /-- whole seconds since the beginning of 1970 -/
  seconds : Int
  /-- nanoseconds on top; a thousand million and more in a leap second -/
  nanoseconds : Nat
  deriving DecidableEq, Repr

namespace Instant

/-- Whether an instant is not after another. -/
def notAfter (a b : Instant) : Bool :=
  a.seconds < b.seconds || (a.seconds == b.seconds && a.nanoseconds ≤ b.nanoseconds)

/-! ## The calendar -/

/-- The number of days from the beginning of 1970 to a date. The year is taken to begin in March,
so that the day a leap year has more comes last. -/
def daysOfDate (year month day : Nat) : Int :=
  let y : Int := if month ≤ 2 then year - 1 else year
  let m : Int := if month ≤ 2 then month + 9 else month - 3
  365 * y + y / 4 - y / 100 + y / 400 + (153 * m + 2) / 5 + day - 1 - 719468

/-- The date a number of days from the beginning of 1970: year, month and day. -/
def dateOfDays (days : Int) : Int × Nat × Nat :=
  let z := days + 719468
  let era := z / 146097
  let doe := z % 146097
  let yoe := (doe - doe / 1460 + doe / 36524 - doe / 146096) / 365
  let doy := doe - (365 * yoe + yoe / 4 - yoe / 100)
  let mp := (5 * doy + 2) / 153
  let day := doy - (153 * mp + 2) / 5 + 1
  let month := if mp < 10 then mp + 3 else mp - 9
  (yoe + era * 400 + (if month ≤ 2 then 1 else 0), month.toNat, day.toNat)

/-- Whether a year has a leap day. -/
def isLeapYear (year : Nat) : Bool :=
  year % 4 = 0 && (year % 100 ≠ 0 || year % 400 = 0)

/-- The number of days of a month. -/
def daysOfMonth (year month : Nat) : Nat :=
  if month = 2 then if isLeapYear year then 29 else 28
  else if month = 4 ∨ month = 6 ∨ month = 9 ∨ month = 11 then 30
  else 31

/-! ## Reading -/

/-- A number of exactly so many digits at the beginning of a text. -/
def digits? (count : Nat) (cs : List Char) : Option (Nat × List Char) :=
  let ds := cs.take count
  if ds.length = count ∧ ds.all Decimal.isDigit then
    some (Decimal.digitsValue ds, cs.drop count)
  else none

/-- A given character at the beginning of a text, and the rest. -/
def expect? (p : Char → Bool) : List Char → Option (List Char)
  | c :: rest => if p c then some rest else none
  | [] => none

/-- Nanoseconds: nothing, or a full stop and digits, of which nine count. -/
def nanoseconds? (cs : List Char) : Option (Nat × List Char) :=
  match cs with
  | '.' :: rest =>
    let ds := rest.takeWhile Decimal.isDigit
    let nine := (ds ++ List.replicate 9 '0').take 9
    if ds.isEmpty then none else some (Decimal.digitsValue nine, rest.dropWhile Decimal.isDigit)
  | _ => some (0, cs)

/-- The offset of a clock in seconds: the letter Z, or a sign, hours and minutes. -/
def offset? : List Char → Option Int
  | ['Z'] | ['z'] => some 0
  | sign :: rest => do
    let (hours, rest) ← digits? 2 rest
    let (minutes, rest) ← digits? 2 (← expect? (· = ':') rest)
    if !rest.isEmpty || minutes > 59 || hours > 23 then none
    else
      let seconds : Int := hours * 3600 + minutes * 60
      if sign = '+' then some seconds else if sign = '-' then some (-seconds) else none
  | [] => none

/-- The instant a text denotes. -/
def read? (s : String) : Option Instant := do
  let (year, cs) ← digits? 4 s.toList
  let (month, cs) ← digits? 2 (← expect? (· = '-') cs)
  let (day, cs) ← digits? 2 (← expect? (· = '-') cs)
  let (hour, cs) ← digits? 2 (← expect? (fun c => c = 'T' || c = 't' || c = ' ') cs)
  let (minute, cs) ← digits? 2 (← expect? (· = ':') cs)
  let (second, cs) ← digits? 2 (← expect? (· = ':') cs)
  let (nanos, cs) ← nanoseconds? cs
  let offset ← offset? cs
  if month = 0 || month > 12 || day = 0 || day > daysOfMonth year month || hour > 23
      || minute > 59 || second > 60 then none
  else
    let leap := second = 60
    let second := if leap then 59 else second
    let time : Int := hour * 3600 + minute * 60 + second
    some ⟨daysOfDate year month day * 86400 + time - offset,
      if leap then nanos + 1000000000 else nanos⟩

/-! ## Writing -/

/-- A number with zeros in front, at least so many digits wide. -/
def padded (count n : Nat) : String :=
  let digits := toString n
  String.ofList (List.replicate (count - digits.length) '0') ++ digits

/-- A year of four digits; one that does not fit has a sign. -/
def yearText (year : Int) : String :=
  if 0 ≤ year ∧ year ≤ 9999 then padded 4 year.toNat
  else (if year < 0 then "-" else "+") ++ padded 4 year.natAbs

/-- The digits of a fraction of a second, in as many groups of three as are needed. -/
def fractionText (nanos : Nat) : String :=
  if nanos = 0 then ""
  else if nanos % 1000000 = 0 then "." ++ padded 3 (nanos / 1000000)
  else if nanos % 1000 = 0 then "." ++ padded 6 (nanos / 1000)
  else "." ++ padded 9 nanos

/-- An instant as shown by a clock without an offset. -/
def text (t : Instant) : String :=
  let (year, month, day) := dateOfDays (t.seconds / 86400)
  let time := (t.seconds % 86400).toNat
  let leap := 1000000000 ≤ t.nanoseconds
  let second := time % 60 + (if leap then 1 else 0)
  s!"{yearText year}-{padded 2 month}-{padded 2 day}T"
    ++ s!"{padded 2 (time / 3600)}:{padded 2 (time / 60 % 60)}:{padded 2 second}"
    ++ fractionText (t.nanoseconds % 1000000000) ++ "Z"

end Instant

end ProposalGate
