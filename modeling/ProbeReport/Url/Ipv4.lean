import ProbeReport.Text.Digit
import ProbeReport.Text.Search

namespace ProbeReport.Url.Ipv4

-- A part of a dotted number: hexadecimal behind `0x`, octal behind a leading zero, decimal
-- otherwise. The letters alone, without digits, are zero.
def number? (s : List Char) : Option Nat :=
  match s with
  | [] => none
  | '0' :: 'x' :: digits | '0' :: 'X' :: digits =>
    if digits.all fun c => (Text.hexValue? c).isSome then some (Text.valueIn 16 digits) else none
  | '0' :: d :: digits =>
    if (d :: digits).all fun c => '0' ≤ c && c ≤ '7' then some (Text.valueIn 8 (d :: digits))
    else none
  | digits => if digits.all Text.isDigit then some (Text.valueIn 10 digits) else none

-- The dotted parts of a name. One dot at the end does not count.
def parts (name : List Char) : List (List Char) :=
  let pieces := Text.splitAt '.' name
  if pieces.getLast? = some [] then pieces.dropLast else pieces

-- Whether a name has to be an address: its last part is a number, or at least all digits.
def endsInNumber (name : List Char) : Bool :=
  match (parts name).getLast? with
  | none => false
  | some last => (last ≠ [] && last.all Text.isDigit) || (number? last).isSome

-- All parts but the last are bytes; the last fills what is left of the thirty-two bits.
def parse? (name : List Char) : Option Nat := do
  let numbers ← (parts name).mapM number?
  let last ← numbers.getLast?
  let bytes := numbers.dropLast
  if bytes.length ≤ 3 ∧ bytes.all (· ≤ 255) ∧ last < Nat.pow 256 (4 - bytes.length) then
    some (bytes.foldr (fun b (total, place) => (total + b * Nat.pow 256 place, place + 1))
      (last, 4 - bytes.length)).1
  else none

def text (address : Nat) : List Char :=
  let part := fun place => (toString (address / Nat.pow 256 place % 256)).toList
  part 3 ++ '.' :: part 2 ++ '.' :: part 1 ++ '.' :: part 0

end ProbeReport.Url.Ipv4
