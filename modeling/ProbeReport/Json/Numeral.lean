import ProbeReport.Json.Fault

namespace ProbeReport.Json

-- How far a number has been read.
inductive Phase where
  | start
  | minus
  | zero
  | whole
  | point
  | fraction
  | mark
  | sign
  | exponent
  deriving Repr, DecidableEq

-- A number may end in these phases.
def Phase.isComplete : Phase → Bool
  | .zero | .whole | .fraction | .exponent => true
  | _ => false

-- In these phases the next character is taken before it is judged, so that a fault lies
-- behind it and what follows can still be looked at.
def Phase.takesNext : Phase → Bool
  | .minus | .mark | .sign => true
  | _ => false

-- A number in progress; its canonical spelling so far stands in reverse.
structure Numeral where
  phase : Phase
  spelling : List Char
  deriving Repr, DecidableEq

namespace Numeral

def empty : Numeral := ⟨.start, []⟩

def text (n : Numeral) : String :=
  String.ofList n.spelling.reverse

-- What one more character does to a number.
inductive Step where
  | more (next : Numeral)
  | done
  | invalid
  deriving Repr, DecidableEq

def push (n : Numeral) (phase : Phase) (chars : List Char) : Step :=
  .more ⟨phase, chars ++ n.spelling⟩

-- The exponent is spelled `e` with a sign, whatever the document wrote.
def openExponent (n : Numeral) : Step := push n .mark ['e']

def step (n : Numeral) (c : Char) : Step :=
  let digit := Text.isDigit c
  match n.phase with
  | .start =>
    if c = '-' then push n .minus ['-']
    else if c = '0' then push n .zero ['0']
    else if digit then push n .whole [c]
    else .invalid
  | .minus =>
    if c = '0' then push n .zero ['0'] else if digit then push n .whole [c] else .invalid
  | .zero =>
    if digit then .invalid
    else if c = '.' then push n .point ['.']
    else if c = 'e' || c = 'E' then openExponent n
    else .done
  | .whole =>
    if digit then push n .whole [c]
    else if c = '.' then push n .point ['.']
    else if c = 'e' || c = 'E' then openExponent n
    else .done
  | .point => if digit then push n .fraction [c] else .invalid
  | .fraction =>
    if digit then push n .fraction [c]
    else if c = 'e' || c = 'E' then openExponent n
    else .done
  | .mark =>
    if c = '+' then push n .sign ['+']
    else if c = '-' then push n .sign ['-']
    else if digit then push n .exponent [c, '+']
    else .invalid
  | .sign => if digit then push n .exponent [c] else .invalid
  | .exponent => if digit then push n .exponent [c] else .done

-- The kind of number that the wording of a fault names: integers of machine size by value.
def found (n : Numeral) : Found :=
  let integer := n.text.toInt?.filter fun _ => n.phase = .zero || n.phase = .whole
  match integer with
  | some value =>
    if n.text = "-0" then .number
    else if n.text.startsWith "-" then
      if -9223372036854775808 ≤ value then .integer n.text else .number
    else if value < 18446744073709551616 then .integer n.text else .number
  | none => .number

def finish (n : Numeral) (text : List UInt8) : Except Cause String :=
  if n.phase.isComplete then .ok n.text
  else .error (.badNumberText true (Position.after text))

def scan (all : List UInt8) (n : Numeral) (offset : Nat) :
    List Char → Except Cause String
  | [] => finish n all
  | c :: rest =>
    match n.step c with
    | .more next => scan all next (offset + c.utf8Size) rest
    | .done => .error (.badNumberText false (Position.after (all.take (offset + 1))))
    | .invalid =>
      let seen := if n.phase.takesNext then 2 else 1
      .error (.badNumberText false (Position.after (all.take (offset + seen))))

-- Reads a text that must be a number from its first to its last character.
def ofText (text : String) : Except Cause String :=
  scan text.toUTF8.toList empty 0 text.toList

end Numeral

end ProbeReport.Json
