namespace ProbeReport.Text.Utf16

inductive Order where
  | little
  | big
  deriving Repr, DecidableEq

-- Two bytes a unit. A single byte at the end is no unit.
def units (order : Order) : List UInt8 → List (Option Nat)
  | a :: b :: rest =>
    let unit :=
      match order with
      | .little => a.toNat + 256 * b.toNat
      | .big => 256 * a.toNat + b.toNat
    some unit :: units order rest
  | [_] => [none]
  | [] => []

def isHigh (unit : Nat) : Bool := 0xd800 ≤ unit && unit ≤ 0xdbff

def isLow (unit : Nat) : Bool := 0xdc00 ≤ unit && unit ≤ 0xdfff

def combine (high low : Nat) : Char :=
  Char.ofNat (0x10000 + (high - 0xd800) * 0x400 + (low - 0xdc00))

-- A surrogate without its partner is malformed; what is cut short at the end is malformed
-- once.
def scalars : List (Option Nat) → List (Option Char)
  | [] => []
  | none :: rest => none :: scalars rest
  | some u :: rest =>
    if isLow u then none :: scalars rest
    else if isHigh u then
      match rest with
      | [] => [none]
      | [none] => [none]
      | none :: more => none :: scalars more
      | some v :: more =>
        if isLow v then some (combine u v) :: scalars more else none :: scalars (some v :: more)
    else some (Char.ofNat u) :: scalars rest

def decodeLossy (order : Order) (bytes : List UInt8) : List Char :=
  (scalars (units order bytes)).map (·.getD '\ufffd')

end ProbeReport.Text.Utf16
