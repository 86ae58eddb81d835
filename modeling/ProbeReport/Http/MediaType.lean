namespace ProbeReport.Http.MediaType

-- Characters of names and of values without quotes.
def isToken (c : Char) : Bool :=
  c.isAlphanum || "!#$%&'*+-.^_\x60|~".toList.contains c

-- Characters between quotes. There is no way to escape a quote there.
def isQuotable (c : Char) : Bool := 0x1f < c.toNat && c.toNat ≠ 0x7f

abbrev Parameters := List (String × String)

-- How far a content type has been read. Names and values so far stand in reverse, and so
-- do the parameters.
inductive Place where
  | type (empty : Bool)
  | subtype (empty : Bool)
  | name (chars : List Char)
  | value (name : String) (chars : List Char)
  | quoted (name : String) (chars : List Char)
  | behindQuotes
  deriving Repr

structure Reading where
  place : Place
  parameters : Parameters

namespace Reading

def goTo (r : Reading) (place : Place) : Option Reading := some { r with place := place }

def textOf (chars : List Char) : String := String.ofList chars.reverse

def add (r : Reading) (name : String) (chars : List Char) (place : Place) : Reading :=
  ⟨place, (name, textOf chars) :: r.parameters⟩

-- Reads one character. Blanks may only stand before a name and behind quotes.
def step (r : Reading) (c : Char) : Option Reading :=
  match r.place with
  | .type empty =>
    if isToken c then r.goTo (.type false)
    else if c = '/' ∧ !empty then r.goTo (.subtype true)
    else none
  | .subtype empty =>
    if isToken c then r.goTo (.subtype false)
    else if c = ';' ∧ !empty then r.goTo (.name [])
    else none
  | .name chars =>
    if isToken c then r.goTo (.name (c :: chars))
    else if c = ' ' ∧ chars = [] then some r
    else if c = '=' ∧ chars ≠ [] then r.goTo (.value (textOf chars) [])
    else none
  | .value name chars =>
    if isToken c then r.goTo (.value name (c :: chars))
    else if c = '"' ∧ chars = [] then r.goTo (.quoted name [])
    else if c = ';' ∧ chars ≠ [] then some (r.add name chars (.name []))
    else none
  | .quoted name chars =>
    if c = '"' ∧ chars ≠ [] then some (r.add name chars .behindQuotes)
    else if isQuotable c then r.goTo (.quoted name (c :: chars))
    else none
  | .behindQuotes =>
    if c = ';' then r.goTo (.name []) else if c = ' ' then some r else none

def finish (r : Reading) : Option Parameters :=
  match r.place with
  | .type _ | .quoted _ _ | .name (_ :: _) => none
  | .value name chars => some ((name, textOf chars) :: r.parameters).reverse
  | .subtype _ | .name [] | .behindQuotes => some r.parameters.reverse

end Reading

-- The parameters of a content type in their order, or nothing when it is malformed.
def parameters? (s : String) : Option Parameters :=
  (s.toList.foldlM Reading.step ⟨.type true, []⟩).bind Reading.finish

-- The first parameter that names the charset, whatever the case of its name.
def charset? (s : String) : Option String :=
  (parameters? s).bind fun parameters =>
    (parameters.find? fun p => String.ofList (p.1.toList.map Char.toLower) = "charset").map (·.2)

end ProbeReport.Http.MediaType
