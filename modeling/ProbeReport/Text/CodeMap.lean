import ProbeReport.Text.CodeSet

namespace ProbeReport.Text

-- A run of code points, every one or every second from first to last, with the image of
-- the first; the others follow it at the same distance.
structure CodeRun where
  first : Nat
  last : Nat
  image : Nat
  stride : Nat
  deriving Repr

namespace CodeRun

def image? (run : CodeRun) (code : Nat) : Option Nat :=
  if run.first ≤ code ∧ code ≤ run.last ∧ (code - run.first) % run.stride = 0 then
    some (run.image + (code - run.first))
  else none

-- A run is written as its range and its image, and its stride when that is not one.
def ofEntry (entry : List Char) : CodeRun :=
  match splitAt ':' entry with
  | [range, image] =>
    let (first, last) := CodeSet.rangeOf range
    ⟨first, last, valueIn 16 image, 1⟩
  | [range, image, stride] =>
    let (first, last) := CodeSet.rangeOf range
    ⟨first, last, valueIn 16 image, valueIn 16 stride⟩
  | _ => ⟨0, 0, 0, 1⟩

end CodeRun

-- A map from code points to code points as a list of runs.
structure CodeMap where
  runs : List CodeRun

namespace CodeMap

def ofRows (rows : List String) : CodeMap := ⟨(CodeSet.entries rows).map CodeRun.ofEntry⟩

def find? (m : CodeMap) (code : Nat) : Option Nat := m.runs.findSome? (·.image? code)

end CodeMap

-- A code point and the sequence that belongs to it.
def codesOf (entry : List Char) : Nat × List Char :=
  match splitAt ':' entry with
  | [code, sequence] =>
    (valueIn 16 code, (splitAt ',' sequence).map fun part => Char.ofNat (valueIn 16 part))
  | _ => (0, [])

end ProbeReport.Text
