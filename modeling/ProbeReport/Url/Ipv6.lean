import ProbeReport.Text.Digit
import ProbeReport.Text.Search

namespace ProbeReport.Url.Ipv6

-- A group of one to four hexadecimal digits.
def piece? (s : List Char) : Option Nat :=
  if s ≠ [] ∧ s.length ≤ 4 ∧ s.all (fun c => (Text.hexValue? c).isSome) then
    some (Text.valueIn 16 s)
  else none

-- A byte in decimal, without leading zeros.
def byte? (s : List Char) : Option Nat :=
  if s ≠ [] ∧ s.all Text.isDigit ∧ (s.head? ≠ some '0' ∨ s.length = 1) ∧
      Text.valueIn 10 s ≤ 255 then
    some (Text.valueIn 10 s)
  else none

-- Four bytes with dots between them fill the last two pieces.
def dotted? (s : List Char) : Option (List Nat) :=
  match (Text.splitAt '.' s).mapM byte? with
  | some [a, b, c, d] => some [a * 256 + b, c * 256 + d]
  | _ => none

def groups? (mayEndDotted : Bool) : List (List Char) → Option (List Nat)
  | [] => some []
  | [last] =>
    match piece? last with
    | some piece => some [piece]
    | none => if mayEndDotted then dotted? last else none
  | group :: rest => do
    let piece ← piece? group
    let pieces ← groups? mayEndDotted rest
    some (piece :: pieces)

def side? (mayEndDotted : Bool) (s : List Char) : Option (List Nat) :=
  if s = [] then some [] else groups? mayEndDotted (Text.splitAt ':' s)

-- What stands before and behind the first pair of colons.
def splitGap? : List Char → Option (List Char × List Char)
  | [] => none
  | ':' :: ':' :: rest => some ([], rest)
  | c :: rest => (splitGap? rest).map fun sides => (c :: sides.1, sides.2)

-- Eight pieces; a pair of colons stands for as many zeros as are missing, at least one.
def parse? (s : List Char) : Option (List Nat) :=
  match splitGap? s with
  | none => do
    let pieces ← side? true s
    if pieces.length = 8 then some pieces else none
  | some (left, right) => do
    let front ← side? false left
    let back ← side? true right
    if front.length + back.length < 8 then
      some (front ++ List.replicate (8 - front.length - back.length) 0 ++ back)
    else none

-- How many zeros a list begins with.
def zeroRun (pieces : List Nat) : Nat := (pieces.takeWhile (· = 0)).length

-- The start and length of the longest run of zeros, the first of equally long ones.
def longestRun : Nat → List Nat → Nat × Nat
  | _, [] => (0, 0)
  | index, piece :: rest =>
    let later := longestRun (index + 1) rest
    let here := zeroRun (piece :: rest)
    if later.2 ≤ here then (index, here) else later

def join (pieces : List Nat) : List Char :=
  [':'].intercalate (pieces.map Text.hexDigits)

-- The longest run of at least two zeros is left out.
def text (pieces : List Nat) : List Char :=
  let (start, length) := longestRun 0 pieces
  if length < 2 then join pieces
  else join (pieces.take start) ++ ':' :: ':' :: join (pieces.drop (start + length))

end ProbeReport.Url.Ipv6
