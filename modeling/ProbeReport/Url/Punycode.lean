namespace ProbeReport.Url.Punycode

-- Letters are the digits from zero on, numerals those from twenty-six.
def digit (n : Nat) : Char :=
  if n < 26 then Char.ofNat ('a'.toNat + n) else Char.ofNat ('0'.toNat + (n - 26))

-- Where the digits of a number end depends on their place and on how large the numbers
-- before it were.
def threshold (bias place : Nat) : Nat := max 1 (min 26 (place - bias))

theorem threshold_pos (bias place : Nat) : 1 ≤ threshold bias place := by
  unfold threshold
  omega

theorem threshold_le (bias place : Nat) : threshold bias place ≤ 26 := by
  unfold threshold
  omega

-- The digits of a number, lowest first. Only the last lies below the threshold of its place.
def digits (bias place n : Nat) : List Char :=
  let low := threshold bias place
  if n < low then [digit n]
  else digit (low + (n - low) % (36 - low)) :: digits bias (place + 36) ((n - low) / (36 - low))
termination_by n
decreasing_by
  have := threshold_pos bias place
  calc (n - threshold bias place) / (36 - threshold bias place)
      ≤ n - threshold bias place := Nat.div_le_self _ _
    _ < n := by omega

def settle (place delta : Nat) : Nat :=
  if 455 < delta then settle (place + 36) (delta / 35) else place + 36 * delta / (delta + 38)
termination_by delta
decreasing_by omega

-- The bias for the next number, from the last one and how many characters are in place.
def adapt (delta placed : Nat) (isFirst : Bool) : Nat :=
  let delta := if isFirst then delta / 700 else delta / 2
  settle 0 (delta + delta / placed)

structure Writer where
  delta : Nat
  bias : Nat
  placed : Nat
  written : List Char

-- Passes one character of the text while a code point is being placed: smaller ones are
-- counted, the code point itself writes the count.
def pass (basic code : Nat) (w : Writer) (c : Char) : Writer :=
  if c.toNat < code then { w with delta := w.delta + 1 }
  else if c.toNat = code then
    { delta := 0
      bias := adapt w.delta (w.placed + 1) (w.placed = basic)
      placed := w.placed + 1
      written := w.written ++ digits w.bias 36 w.delta }
  else w

-- Places code points in rising order, each after the one before it.
def place (s : List Char) (basic : Nat) : Nat → Writer → List Nat → Writer
  | _, w, [] => w
  | reached, w, code :: rest =>
    let start := { w with delta := w.delta + (code - reached) * (w.placed + 1) }
    let passed := s.foldl (pass basic code) start
    place s basic (code + 1) { passed with delta := passed.delta + 1 } rest

-- The code points beyond ASCII, each once, in rising order.
def codesBeyond (s : List Char) : List Nat :=
  (((s.map Char.toNat).filter (0x80 ≤ ·)).mergeSort (· ≤ ·)).eraseDups

-- ASCII characters first, then where and which the others are.
def encode (s : List Char) : List Char :=
  let basic := s.filter (·.toNat < 0x80)
  let front := if basic = [] then [] else basic ++ ['-']
  front ++ (place s basic.length 0x80 ⟨0, 72, basic.length, []⟩ (codesBeyond s)).written

def valueOf? (c : Char) : Option Nat :=
  if 'a' ≤ c ∧ c ≤ 'z' then some (c.toNat - 'a'.toNat)
  else if '0' ≤ c ∧ c ≤ '9' then some (c.toNat - '0'.toNat + 26)
  else none

-- The number that stands in front, from its digits on one place after another, and what is
-- behind it.
def number? (bias place weight total : Nat) : List Char → Option (Nat × List Char)
  | [] => none
  | c :: rest => do
    let value ← valueOf? c
    let low := threshold bias place
    let total := total + value * weight
    if value < low then some (total, rest)
    else number? bias (place + 36) (weight * (36 - low)) total rest

-- Puts characters where the numbers say, one after another. There is at most one number for
-- each character of the text.
def fill (fuel code index bias : Nat) (placed : List Char) (s : List Char) :
    Option (List Char) :=
  match fuel, s with
  | _, [] => some placed
  | 0, _ => none
  | fuel + 1, s => do
    let (delta, rest) ← number? bias 36 1 0 s
    let room := placed.length + 1
    let code := code + (index + delta) / room
    let index := (index + delta) % room
    if code.isValidChar then
      fill fuel code (index + 1) (adapt delta room (placed.all (·.toNat < 0x80)))
        (placed.insertIdx index (Char.ofNat code)) rest
    else none

-- The text that was encoded. Its ASCII characters stand in front of the last hyphen.
def decode? (s : List Char) : Option (List Char) :=
  let numbers := (s.reverse.takeWhile (· ≠ '-')).reverse
  let basic := s.take (s.length - numbers.length - 1)
  fill numbers.length 0x80 0 72 basic numbers

end ProbeReport.Url.Punycode
