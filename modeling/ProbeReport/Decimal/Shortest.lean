namespace ProbeReport.Decimal

-- A positive number written as digits times a power of ten.
structure Scaled where
  digits : Nat
  exponent : Int
  deriving Repr, DecidableEq

-- What the sixty-four bits of a binary floating point number stand for.
inductive Binary where
  | finite (negative : Bool) (mantissa : Nat) (exponent : Int)
  | infinite (negative : Bool)
  | notANumber
  deriving Repr, DecidableEq

def Binary.ofBits (bits : Nat) : Binary :=
  let negative := bits / Nat.pow 2 63 % 2 = 1
  let exponent : Nat := bits / Nat.pow 2 52 % Nat.pow 2 11
  let fraction := bits % Nat.pow 2 52
  if exponent = 2047 then
    if fraction = 0 then .infinite negative else .notANumber
  else if exponent = 0 then .finite negative fraction (-1074)
  else .finite negative (Nat.pow 2 52 + fraction) ((exponent : Int) - 1075)

-- The numbers that round to a given one, in units of a common denominator. The ends belong
-- to it when the mantissa is even.
structure Interval where
  low : Nat
  middle : Nat
  high : Nat
  denominator : Nat
  closed : Bool

-- Below a power of two the neighbours lie half as far away.
def Interval.around (mantissa : Nat) (exponent : Int) : Interval :=
  let unit := Nat.pow 2 (exponent - 2).toNat
  let below := if mantissa = Nat.pow 2 52 ∧ exponent ≠ -1074 then 1 else 2
  { low := (4 * mantissa - below) * unit
    middle := 4 * mantissa * unit
    high := (4 * mantissa + 2) * unit
    denominator := Nat.pow 2 (2 - exponent).toNat
    closed := mantissa % 2 = 0 }

-- Whether `digits` times ten to the `exponent` rounds to the number, and how far from it
-- that is, in units that depend on the exponent alone.
def Interval.distance? (i : Interval) (digits : Nat) (exponent : Int) : Option Nat :=
  let up := Nat.pow 10 exponent.toNat
  let down := Nat.pow 10 (-exponent).toNat
  let candidate := digits * up * i.denominator
  let inside :=
    if i.closed then i.low * down ≤ candidate && candidate ≤ i.high * down
    else i.low * down < candidate && candidate < i.high * down
  if inside then
    some (max candidate (i.middle * down) - min candidate (i.middle * down))
  else none

-- The power of ten just above the number.
def Interval.magnitude (i : Interval) : Int :=
  ((toString (i.middle * Nat.pow 10 400 / i.denominator)).length : Int) - 400

-- The point of a decimal grid that rounds to the number, if there is one: of its two
-- neighbours on the grid the nearer, of two equally near the even one.
def Interval.onGrid? (i : Interval) (exponent : Int) : Option Nat :=
  let below :=
    i.middle * Nat.pow 10 (-exponent).toNat / (i.denominator * Nat.pow 10 exponent.toNat)
  match i.distance? below exponent, i.distance? (below + 1) exponent with
  | some d, some e =>
    if d < e then some below
    else if e < d then some (below + 1)
    else some (if below % 2 = 0 then below else below + 1)
  | some _, none => some below
  | none, some _ => some (below + 1)
  | none, none => none

def dropZeros (fuel : Nat) (s : Scaled) : Scaled :=
  match fuel with
  | 0 => s
  | fuel + 1 =>
    if s.digits ≠ 0 ∧ s.digits % 10 = 0 then dropZeros fuel ⟨s.digits / 10, s.exponent + 1⟩
    else s

-- The fewest digits that read back as the number. Seventeen are always enough.
def shortest (mantissa : Nat) (exponent : Int) : Scaled :=
  let i := Interval.around mantissa exponent
  let magnitude := i.magnitude
  let grids := (List.range 17).map fun n => magnitude - Int.ofNat n - 1
  match grids.findSome? fun e => (i.onGrid? e).map fun d => Scaled.mk d e with
  | some s => dropZeros 20 s
  | none => ⟨0, 0⟩

end ProbeReport.Decimal
