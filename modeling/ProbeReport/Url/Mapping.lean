import ProbeReport.Text.Compose
import ProbeReport.Text.Fold
import ProbeReport.Text.Unprintable
import ProbeReport.Url.Domain
import ProbeReport.Url.Punycode

namespace ProbeReport.Url.Mapping

open Domain (encodedMark isAscii isForbidden)

-- Characters that leave no trace in a name: hyphens and blanks without width, and the
-- selectors of a variant.
def ignored : Text.CodeSet := .ofRows
  ["ad 34f 180b-180d 180f 200b 2060 2064 fe00-fe0f feff 1bca0-1bca3 e0100-e01ef"]

-- Dots that separate labels, besides the full stop.
def dots : Text.CodeSet := .ofRows ["3002 ff0e ff61"]

-- Letters that stay although they count as others elsewhere: the sharp s and the final sigma.
def kept : Text.CodeSet := .ofRows ["df 3c2"]

-- The two joiners, which only show how their neighbours are drawn.
def joiners : Text.CodeSet := .ofRows ["200c-200d"]

-- Characters with a look of their own that still have no place in a name: fillers, marks
-- that describe how to draw an ideograph, and replacements.
def refused : Text.CodeSet := .ofRows ["115f-1160 17b4-17b5 2ff0-2fff 3164 ffa0 fffc-fffd"]

-- What a character becomes in a name. A character that stands for several, a full stop
-- among them, has no place there.
def mapChar? (c : Char) : Option (List Char) :=
  if ignored.contains c then some []
  else if dots.contains c then some ['.']
  else if kept.contains c then some [c]
  else if c = 'ẞ' then some ['ß']
  else if c ≠ '.' ∧ (Text.fold c).contains '.' then none
  else some (Text.fold c)

def isAllowed (c : Char) : Bool :=
  joiners.contains c ||
    !(refused.contains c || (Text.unprintable.contains c && !Text.marks.contains c))

-- The class of the marks that silence a vowel and so bind the letters around them.
def silencer : Nat := 9

-- A joiner must stand behind a mark that binds.
def joinersBound (before : Option Char) : List Char → Bool
  | [] => true
  | c :: rest =>
    (!joiners.contains c || (before.map Text.markClass).getD 0 = silencer) &&
      joinersBound (some c) rest

-- A label beyond ASCII must not begin with a mark, and all of it must have a place there.
def isValid (s : List Char) : Bool :=
  !isAscii s && !s.head?.any Text.marks.contains && s.all isAllowed && joinersBound none s

def encodeLabel (s : List Char) : List Char := encodedMark ++ Punycode.encode s

-- What a label stands for that has the form for the wire already. It has to be valid and
-- mapped, and its own form is that label.
def decodeLabel? (s : List Char) : Option (List Char) := do
  let decoded ← Punycode.decode? (s.drop encodedMark.length)
  let mapped ← decoded.mapM mapChar?
  if isValid decoded && Text.compose mapped.flatten = decoded && encodeLabel decoded = s then
    some decoded
  else none

-- The form of a label for the wire.
def label? (s : List Char) : Option (List Char) :=
  if encodedMark.isPrefixOf s then (decodeLabel? s).map encodeLabel
  else if isAscii s then some s
  else if isValid s then some (encodeLabel s)
  else none

-- A name is mapped and composed, and then encoded label by label.
def encode? (name : List Char) : Option (List Char) := do
  let mapped ← name.mapM mapChar?
  let labels ← (Text.splitAt '.' (Text.compose mapped.flatten)).mapM label?
  some (['.'].intercalate labels)

-- The form of a name for the wire, in which nothing forbidden is left.
def toAscii? (name : List Char) : Option (List Char) :=
  (encode? name).filter fun wire => !wire.any isForbidden

end ProbeReport.Url.Mapping
