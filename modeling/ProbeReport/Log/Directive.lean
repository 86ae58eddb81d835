import ProbeReport.Log.Event
import ProbeReport.Text.Alphanumeric
import ProbeReport.Text.Search
import ProbeReport.Text.Slice

namespace ProbeReport.Log

-- The least severity that is printed; no severity at all when it is off.
abbrev Threshold := Option Severity

def Threshold.admits (t : Threshold) (s : Severity) : Bool :=
  match t with
  | none => false
  | some least => least ≤ s

-- Sets a threshold for all targets, or for those that begin with a text, and there for events
-- that record all of some names.
structure Directive where
  target : Option String
  names : List String
  threshold : Threshold
  deriving Repr, DecidableEq

-- Patterns for the values of fields: why a text is none, if it is none.
class Patterns where
  fault? : String → Option String

inductive FilterError where
  | invalidDirective
  | invalidLevel
  | invalidField (why : String)
  deriving Repr, DecidableEq

def FilterError.message : FilterError → String
  | .invalidDirective => "invalid filter directive"
  | .invalidLevel =>
    "error parsing level filter: expected one of \"off\", \"error\", \"warn\", \"info\", " ++
      "\"debug\", \"trace\", or a number 0-5"
  | .invalidField why => "invalid field filter: " ++ why

-- Why a directive cannot be read: it is refused, or the reading itself breaks down.
inductive Halt where
  | refused (error : FilterError)
  | panicked
  deriving Repr, DecidableEq

namespace Threshold

def ofNumber? : Nat → Option Threshold
  | 0 => some none
  | 1 => some (some .error)
  | 2 => some (some .warn)
  | 3 => some (some .info)
  | 4 => some (some .debug)
  | 5 => some (some .trace)
  | _ => none

-- A number may have leading zeros and a plus sign.
def ofDigits? (s : List Char) : Option Threshold :=
  let digits := if s.head? = some '+' then s.drop 1 else s
  if digits ≠ [] ∧ digits.all Text.isDigit then ofNumber? (Text.valueIn 10 digits) else none

-- A name counts in any case.
def ofName? (s : List Char) : Option Threshold :=
  let name := String.ofList (s.map Char.toLower)
  if name = "off" then some none
  else (Severity.all.find? fun severity => severity.name = name).map some

def ofText? (s : List Char) : Option Threshold :=
  ofDigits? s <|> ofName? s

end Threshold

namespace Directive

-- Blanks of any script.
def isSpace (c : Char) : Bool :=
  let n := c.toNat
  (9 ≤ n && n ≤ 13) || n = 0x20 || n = 0x85 || n = 0xa0 || n = 0x1680 ||
    (0x2000 ≤ n && n ≤ 0x200a) || n = 0x2028 || n = 0x2029 || n = 0x202f || n = 0x205f ||
    n = 0x3000

def mayBegin (c : Char) : Bool :=
  c = '-' || c = ':' || c = '_' || c.isAlphanum || Text.alphanumeric.contains c

-- What the reading of a directive stands in. The numbers tell at which byte it began.
inductive Place where
  | start
  | word
  | span (start : Nat)
  | field (start : Nat)
  | behindFields
  | behindSpan
  | level (start : Nat)
  deriving Repr, DecidableEq

-- How far a directive has been read: so many bytes, and what has been found in them. A field
-- may have to match a value.
structure Reading where
  place : Place
  position : Nat
  target : Option String
  span : Option String
  fields : List (String × Bool)
  deriving Repr, DecidableEq

-- Offsets are counted without the blanks around a directive, but the parts are cut from the
-- whole of it. An offset within a character breaks the reading down.
def cut (cutter : List Char → Option (List Char)) (whole : List Char) : Except Halt String :=
  match cutter whole with
  | some part => .ok (String.ofList part)
  | none => .error .panicked

-- A field by its name, or by its name and a pattern for its value.
def fieldOf [Patterns] (s : String) : Except Halt (String × Bool) :=
  match Text.splitAt '=' s.toList with
  | [] | [[]] => .error (.refused .invalidDirective)
  | [name] => .ok (String.ofList name, false)
  | name :: value :: _ =>
    match Patterns.fault? (String.ofList value) with
    | none => .ok (String.ofList name, true)
    | some why => .error (.refused (.invalidField why))

namespace Reading

def goTo (r : Reading) (place : Place) : Except Halt Reading := .ok { r with place := place }

-- What one character of a directive does, except that it is passed.
def turn [Patterns] (whole : List Char) (r : Reading) (c : Char) : Except Halt Reading := do
  let refuse : Except Halt Reading := .error (.refused .invalidDirective)
  match r.place with
  | .start =>
    if c = '[' then r.goTo (.span (r.position + 1))
    else if mayBegin c then r.goTo .word
    else refuse
  | .word =>
    if c = '=' then
      let target ← cut (Text.slice? 0 r.position) whole
      { r with target := some target }.goTo (.level (r.position + 1))
    else if c = '[' then
      let target ← cut (Text.slice? 0 r.position) whole
      { r with target := some target }.goTo (.span (r.position + 1))
    else .ok r
  | .span start =>
    if c = ']' then
      let span ← cut (Text.slice? start r.position) whole
      { r with span := some span }.goTo .behindSpan
    else if c = '\x7b' then
      let span ← cut (Text.slice? start r.position) whole
      { r with span := if span = "" then none else some span }.goTo (.field (r.position + 1))
    else .ok r
  | .field start =>
    if c = '\x7d' then
      let field ← fieldOf (← cut (Text.slice? start r.position) whole)
      { r with fields := r.fields ++ [field] }.goTo .behindFields
    else .ok r
  | .behindFields => if c = ']' then r.goTo .behindSpan else refuse
  | .behindSpan => if c = '=' then r.goTo (.level (r.position + 1)) else refuse
  | .level _ => .ok r

def step [Patterns] (whole : List Char) (r : Reading) (c : Char) : Except Halt Reading :=
  (r.turn whole c).map fun next => { next with position := r.position + c.utf8Size }

-- The directive for a threshold. One that names a span, or a value for a field, only counts
-- within spans.
def directive? (r : Reading) (threshold : Threshold) : Option Directive :=
  if r.span.isSome || r.fields.any (·.2) then none
  else some ⟨r.target, r.fields.map (·.1), threshold⟩

-- Without a level all of a target is printed.
def finish (whole : List Char) (r : Reading) : Except Halt (Option Directive) :=
  match r.place with
  | .word =>
    match Threshold.ofText? whole with
    | some threshold => .ok (r.directive? threshold)
    | none => .ok ({ r with target := some (String.ofList whole) }.directive? (some .trace))
  | .behindSpan => .ok (r.directive? (some .trace))
  | .level start => do
    let level ← cut (Text.dropBytes? start) whole
    if level = "" then .ok (r.directive? (some .trace))
    else
      match Threshold.ofText? level.toList with
      | some threshold => .ok (r.directive? threshold)
      | none => .error (.refused .invalidLevel)
  | _ => .error (.refused .invalidDirective)

end Reading

-- Reads a directive: a level, or a target, a span with fields and a level, of which some may
-- be left out. There is nothing to it when it only counts within spans.
def ofText [Patterns] (s : List Char) : Except Halt (Option Directive) := do
  let r ← (Text.trim isSpace s).foldlM (Reading.step s) ⟨.start, 0, none, none, []⟩
  r.finish s

end Directive

end ProbeReport.Log
