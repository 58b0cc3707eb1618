import Mailroom.Text.Blank
import Mailroom.Text.Digits

/-! # Durations

A duration is written as numbers with units, `1d 12h` or `1.5hours`, which are added up
(`Duration.parse?`).  White space may stand between any two characters that are not letters.  It
is counted in nanoseconds; its whole seconds fit into 64 bits. -/

namespace Mailroom

/-- A length of time. -/
structure Duration where
  nanoseconds : Nat
  bounded : nanoseconds < Nat.pow 2 64 * Nat.pow 10 9 := by decide
deriving DecidableEq, Repr

namespace Duration

/-- The nanoseconds of a second. -/
def second : Nat := Nat.pow 10 9

/-- No time. -/
def zero : Duration := ⟨0, by decide⟩

/-- The whole seconds of a duration. -/
def seconds (d : Duration) : Nat := d.nanoseconds / second

/-- The nanoseconds beyond the whole seconds. -/
def nanos (d : Duration) : Nat := d.nanoseconds % second

/-- Whether no time passes. -/
def isZero (d : Duration) : Bool := d.nanoseconds == 0

/-- A number that fits into 64 bits. -/
def word? (n : Nat) : Option Nat := if n < Nat.pow 2 64 then some n else none

/-- Adds seconds and nanoseconds, if the sum is a duration and the nanoseconds fit into 64 bits
on the way. -/
def add? (d : Duration) (seconds nanos : Nat) : Option Duration := do
  let nanos ← word? (d.nanos + nanos)
  let total := (d.seconds + seconds) * second + nanos
  if h : total < Nat.pow 2 64 * Nat.pow 10 9 then some ⟨total, h⟩ else none

/-! ### Units -/

/-- A unit of time: its names and its length in nanoseconds. -/
structure TimeUnit where
  names : List String
  length : Nat

/-- Every unit.  A month is the twelfth part of a year, and a year is 365.25 days. -/
def units : List TimeUnit := [
  ⟨["nanos", "nsec", "ns"], 1⟩,
  ⟨["usec", "us", "µs"], 1000⟩,
  ⟨["millis", "msec", "ms"], 1000000⟩,
  ⟨["seconds", "second", "secs", "sec", "s"], second⟩,
  ⟨["minutes", "minute", "min", "mins", "m"], 60 * second⟩,
  ⟨["hours", "hour", "hrs", "hr", "h"], 3600 * second⟩,
  ⟨["days", "day", "d"], 86400 * second⟩,
  ⟨["weeks", "week", "wk", "wks", "w"], 604800 * second⟩,
  ⟨["months", "month", "M"], 2630016 * second⟩,
  ⟨["years", "year", "yr", "yrs", "y"], 31557600 * second⟩]

/-- The unit with a name. -/
def unit? (name : String) : Option TimeUnit := units.find? (·.names.contains name)

/-- Adds a number of units.  Whole seconds are counted apart. -/
def addWhole? (d : Duration) (unit : TimeUnit) (n : Nat) : Option Duration :=
  if unit.length < second then do d.add? 0 (← word? (n * unit.length))
  else do d.add? (← word? (n * (unit.length / second))) 0

/-- A part of a unit: a numerator and a denominator. -/
abbrev Fraction : Type := Nat × Nat

/-- Adds a part of a unit, rounded down.  A part of an hour or more is counted in seconds, of a
shorter unit in nanoseconds; a nanosecond has no parts. -/
def addPart? (d : Duration) (unit : TimeUnit) (part : Fraction) : Option Duration :=
  if unit.length = 1 then none
  else if unit.length ≤ 60 * second then do
    d.add? 0 ((← word? (part.1 * unit.length)) / part.2)
  else do d.add? ((← word? (part.1 * (unit.length / second))) / part.2) 0

/-- Adds a number with a part of one, in the unit of this name. -/
def addUnits? (d : Duration) (n : Nat) (part? : Option Fraction) (name : List Char) :
    Option Duration := do
  let unit ← unit? (String.ofList name)
  let d ← d.addWhole? unit n
  match part? with
  | none => return d
  | some part => d.addPart? unit part

/-! ### Reading -/

/-- What is being read of a duration. -/
inductive Reading where
  /-- Nothing yet. -/
  | start
  /-- The space between a unit and the next number. -/
  | gap
  /-- The number `n` in front of a unit. -/
  | whole (n : Nat)
  /-- The places of a number. -/
  | places (n : Nat) (part : Fraction)
  /-- The name of a unit. -/
  | unit (n : Nat) (part? : Option Fraction) (name : List Char)
deriving DecidableEq, Repr

/-- Whether a character may stand in the name of a unit. -/
def isUnitChar (c : Char) : Bool := c.isAlpha || c == 'µ'

/-- A number with one more digit. -/
def addDigit? (n : Nat) (c : Char) : Option Nat := word? (n * 10 + digitValue c)

/-- What is being read after the character `c`, and the sum of the units before. -/
def readChar? (sum : Duration) (c : Char) : Reading → Option (Duration × Reading)
  | .start =>
    if c.isDigit then some (sum, .whole (digitValue c))
    else if isWhiteSpace c then some (sum, .start)
    else none
  | .gap =>
    if c.isDigit then some (sum, .whole (digitValue c))
    else if isWhiteSpace c then some (sum, .gap)
    else none
  | .whole n =>
    if c.isDigit then do return (sum, .whole (← addDigit? n c))
    else if isWhiteSpace c then some (sum, .whole n)
    else if isUnitChar c then some (sum, .unit n none [c])
    else if c = '.' then some (sum, .places n (0, 1))
    else none
  | .places n part =>
    if c.isDigit then do return (sum, .places n (← addDigit? part.1 c, ← word? (part.2 * 10)))
    else if isWhiteSpace c then some (sum, .places n part)
    else if isUnitChar c && part.2 != 1 then some (sum, .unit n (some part) [c])
    else none
  | .unit n part? name =>
    if c.isDigit then do return (← sum.addUnits? n part? name, .whole (digitValue c))
    else if isWhiteSpace c then do return (← sum.addUnits? n part? name, .gap)
    else if isUnitChar c then some (sum, .unit n part? (name ++ [c]))
    else none

/-- The duration after the last character. -/
def finish? (sum : Duration) : Reading → Option Duration
  | .gap => some sum
  | .unit n part? name => sum.addUnits? n part? name
  | _ => none

/-- The duration that a text denotes; a zero needs no unit. -/
def parse? (text : String) : Option Duration :=
  if text = "0" then some zero
  else do
    let (sum, reading) ← text.toList.foldlM
      (fun (sum, reading) c => readChar? sum c reading) (zero, Reading.start)
    finish? sum reading

end Duration

end Mailroom
