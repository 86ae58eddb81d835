import ProbeReport.Text.Digit
import ProbeReport.Text.Search

namespace ProbeReport.Text

-- A set of code points as ranges, both ends included.
structure CodeSet where
  ranges : List (Nat × Nat)

namespace CodeSet

-- The entries of a table, which stand in rows and are set apart by blanks.
def entries (rows : List String) : List (List Char) :=
  rows.flatMap fun row => splitAt ' ' row.toList

-- A range is written as its two ends in base sixteen, or as one code point alone.
def rangeOf (entry : List Char) : Nat × Nat :=
  match splitAt '-' entry with
  | [first, last] => (valueIn 16 first, valueIn 16 last)
  | _ => (valueIn 16 entry, valueIn 16 entry)

def ofRows (rows : List String) : CodeSet := ⟨(entries rows).map rangeOf⟩

def contains (s : CodeSet) (c : Char) : Bool :=
  s.ranges.any fun range => range.1 ≤ c.toNat && c.toNat ≤ range.2

end CodeSet

end ProbeReport.Text
