import ProbeReport.Decimal.Shortest

namespace ProbeReport.Log

-- The text of a finite number in a log line: positional from a hundred-thousandth up to
-- below ten to the sixteenth, always with a fraction, and else one digit before the point
-- and an exponent with its sign.
def scaledText (s : Decimal.Scaled) : List Char :=
  let digits := (toString s.digits).toList
  let leading := (digits.length : Int) + s.exponent - 1
  if -5 ≤ leading ∧ leading < 16 then
    if 0 ≤ s.exponent then digits ++ List.replicate s.exponent.toNat '0' ++ ['.', '0']
    else if 0 ≤ leading then
      digits.take (leading.toNat + 1) ++ '.' :: digits.drop (leading.toNat + 1)
    else '0' :: '.' :: List.replicate (-leading - 1).toNat '0' ++ digits
  else
    let fraction := if digits.length = 1 then [] else '.' :: digits.drop 1
    let sign := if leading < 0 then '-' else '+'
    digits.take 1 ++ fraction ++ 'e' :: sign :: (toString leading.natAbs).toList

-- A number that is not finite has no spelling.
def floatText? (bits : Nat) : Option String :=
  match Decimal.Binary.ofBits bits with
  | .finite negative 0 _ => some (if negative then "-0.0" else "0.0")
  | .finite negative mantissa exponent =>
    let text := String.ofList (scaledText (Decimal.shortest mantissa exponent))
    some (if negative then "-" ++ text else text)
  | _ => none

end ProbeReport.Log
