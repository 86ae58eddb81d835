namespace ProbeReport.Text.Utf8

-- A decoder inside a character: how many more bytes must follow, the range of the next
-- one, and the bits so far.
inductive Pending where
  | none
  | some (need : Nat) (low high : UInt8) (bits : Nat)
  deriving Repr, DecidableEq

-- The first byte of a character. Bytes that could only begin an overlong form, a surrogate
-- or a number beyond the last character are malformed on their own or narrow the range of
-- the byte behind them.
def lead (b : UInt8) : Pending × List (Option Char) :=
  if b < 0x80 then (.none, [some (Char.ofNat b.toNat)])
  else if 0xc2 ≤ b ∧ b ≤ 0xdf then (.some 1 0x80 0xbf (b.toNat % 32), [])
  else if b = 0xe0 then (.some 2 0xa0 0xbf 0, [])
  else if b = 0xed then (.some 2 0x80 0x9f 13, [])
  else if 0xe1 ≤ b ∧ b ≤ 0xef then (.some 2 0x80 0xbf (b.toNat % 16), [])
  else if b = 0xf0 then (.some 3 0x90 0xbf 0, [])
  else if b = 0xf4 then (.some 3 0x80 0x8f 4, [])
  else if 0xf1 ≤ b ∧ b ≤ 0xf3 then (.some 3 0x80 0xbf (b.toNat % 8), [])
  else (.none, [Option.none])

-- A byte that cannot continue a character ends it as malformed and is read afresh.
def step (state : Pending) (b : UInt8) : Pending × List (Option Char) :=
  match state with
  | .none => lead b
  | .some need low high bits =>
    if low ≤ b ∧ b ≤ high then
      let bits := bits * 64 + b.toNat % 64
      if need = 1 then (.none, [some (Char.ofNat bits)])
      else (.some (need - 1) 0x80 0xbf bits, [])
    else
      let (next, read) := lead b
      (next, Option.none :: read)

-- Characters and malformed stretches, in order.
def pieces (state : Pending) : List UInt8 → List (Option Char)
  | [] => if state = .none then [] else [Option.none]
  | b :: rest => (step state b).2 ++ pieces (step state b).1 rest

-- Reads bytes that need not be well formed; each malformed stretch becomes one replacement
-- character.
def decodeLossy (bytes : List UInt8) : List Char :=
  (pieces .none bytes).map (·.getD '\ufffd')

-- Reads bytes that have to be well formed.
def decode? (bytes : List UInt8) : Option String :=
  ((pieces .none bytes).mapM id).map String.ofList

end ProbeReport.Text.Utf8
