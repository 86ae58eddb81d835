import ProbeReport.Text.Search
import ProbeReport.Url.Idna

namespace ProbeReport.Url.Domain

-- Characters that no name may hold.
def isForbidden (c : Char) : Bool :=
  c.toNat ≤ 0x20 || c.toNat = 0x7f || "#/:<>?@[\\]^|%".toList.contains c

def isAscii (s : List Char) : Bool := s.all (·.toNat < 0x80)

-- How a label begins that stands for another one beyond ASCII.
def encodedMark : List Char := "xn--".toList

-- A name of ASCII labels that stand for themselves.
def isPlain (name : List Char) : Bool :=
  isAscii name &&
    (Text.splitAt '.' name).all fun label => !encodedMark.isPrefixOf (label.map Char.toLower)

-- The form of a name for the wire. A plain one only changes its case.
def toAscii? [Idna] (name : List Char) : Option (List Char) := do
  let wire ← if isPlain name then some (name.map Char.toLower) else Idna.toAscii? name
  if wire.any isForbidden then none else some wire

end ProbeReport.Url.Domain
