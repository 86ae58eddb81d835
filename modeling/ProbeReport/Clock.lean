import ProbeReport.Text.Digit

namespace ProbeReport

-- A reading of the clock: whole seconds since the start of 1970 and nanoseconds.
structure Instant where
  seconds : Nat
  nanos : Nat
  deriving Repr, DecidableEq, Inhabited

namespace Instant

-- A clock that is set before 1970 reads as the start of 1970.
def ofClock (seconds : Int) (nanos : Nat) : Instant :=
  if seconds < 0 then ⟨0, 0⟩ else ⟨seconds.toNat, nanos⟩

end Instant

namespace Calendar

def isLeap (year : Nat) : Bool := (year % 4 = 0 && year % 100 ≠ 0) || year % 400 = 0

def yearLength (year : Nat) : Nat := if isLeap year then 366 else 365

def monthLengths (year : Nat) : List Nat :=
  [31, if isLeap year then 29 else 28, 31, 30, 31, 30, 31, 31, 30, 31, 30, 31]

-- Which of consecutive spans a day falls into, and how many days of that span precede it.
def locate : List Nat → Nat → Nat × Nat
  | [], day => (0, day)
  | span :: rest, day =>
    if day < span then (0, day)
    else
      let (index, within) := locate rest (day - span)
      (index + 1, within)

-- Years repeat after four hundred.
def eraYears : Nat := 400

def eraLengths : List Nat := (List.range eraYears).map fun i => yearLength (1970 + i)

def eraDays : Nat := 146097

structure Date where
  year : Nat
  month : Nat
  day : Nat
  deriving Repr, DecidableEq

-- The date of a day, counted from the first of January 1970.
def dateOf (days : Nat) : Date :=
  let (index, within) := locate eraLengths (days % eraDays)
  let year := 1970 + eraYears * (days / eraDays) + index
  let (month, day) := locate (monthLengths year) within
  ⟨year, month + 1, day + 1⟩

end Calendar

namespace Instant

-- The time stamp of a log line, to the millisecond and in universal time.
def stamp (t : Instant) : String :=
  let date := Calendar.dateOf (t.seconds / 86400)
  let second := t.seconds % 86400
  String.ofList <|
    Text.padZeros 4 date.year ++ '-' :: Text.padZeros 2 date.month ++ '-' ::
      Text.padZeros 2 date.day ++ 'T' :: Text.padZeros 2 (second / 3600) ++ ':' ::
      Text.padZeros 2 (second % 3600 / 60) ++ ':' :: Text.padZeros 2 (second % 60) ++ '.' ::
      Text.padZeros 3 (t.nanos / 1000000) ++ ['Z']

end Instant

end ProbeReport
