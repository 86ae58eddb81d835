namespace ProbeReport.Text

-- The value of a hexadecimal digit in either case.
def hexValue? (c : Char) : Option Nat :=
  if '0' ≤ c ∧ c ≤ '9' then some (c.toNat - '0'.toNat)
  else if 'a' ≤ c ∧ c ≤ 'f' then some (c.toNat - 'a'.toNat + 10)
  else if 'A' ≤ c ∧ c ≤ 'F' then some (c.toNat - 'A'.toNat + 10)
  else none

-- The lower-case hexadecimal digit of a value below sixteen.
def hexDigit (n : Nat) : Char :=
  if n < 10 then Char.ofNat ('0'.toNat + n) else Char.ofNat ('a'.toNat + (n - 10))

-- The upper-case form, as percent-encoding writes it.
def hexDigitUpper (n : Nat) : Char :=
  if n < 10 then Char.ofNat ('0'.toNat + n) else Char.ofNat ('A'.toNat + (n - 10))

-- Digits of a number in base sixteen, without leading zeros; zero has one digit.
def hexDigits (n : Nat) : List Char :=
  if n < 16 then [hexDigit n] else hexDigits (n / 16) ++ [hexDigit (n % 16)]

def isDigit (c : Char) : Bool :=
  '0' ≤ c && c ≤ '9'

-- Reads digits from the left in the given base; a character that is no digit counts as zero.
def valueIn (base : Nat) (digits : List Char) : Nat :=
  digits.foldl (fun total c => total * base + (hexValue? c).getD 0) 0

-- Pads with zeros on the left up to a width; longer texts stay as they are.
def padZeros (width : Nat) (n : Nat) : List Char :=
  let digits := (toString n).toList
  List.replicate (width - digits.length) '0' ++ digits

end ProbeReport.Text
