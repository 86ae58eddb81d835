import ProbeReport.Log.Directive

namespace ProbeReport.Log

namespace Directive

-- A directive for all targets matches with the empty text.
def targetText (d : Directive) : List Char := (d.target.getD "").toList

def covers (d : Directive) (target : String) (names : List String) : Bool :=
  d.targetText.isPrefixOf target.toList && d.names.all names.contains

-- Whether a later directive takes the place of an earlier one, when both cover an event: it has
-- a longer target, more names, or names that stand behind.
def yieldsTo (d later : Directive) : Bool :=
  if d.targetText.length ≠ later.targetText.length then
    d.targetText.length < later.targetText.length
  else if d.names.length ≠ later.names.length then d.names.length < later.names.length
  else !decide (later.names < d.names)

end Directive

-- Directives in the order in which they were given.
abbrev Filter := List Directive

namespace Filter

-- Commas set directives apart; nothing between two commas is no directive.
def ofText [Patterns] (s : String) : Except Halt Filter :=
  (((Text.splitAt ',' s.toList).filter (· ≠ [])).mapM Directive.ofText).map (·.reduceOption)

-- The directive that decides about an event.
def decisive? (f : Filter) (target : String) (names : List String) : Option Directive :=
  f.foldl (fun best d =>
    if d.covers target names then
      match best with
      | none => some d
      | some b => if b.yieldsTo d then some d else best
    else best) none

-- An event that no directive covers is dropped.
def enables (f : Filter) (target : String) (names : List String) (severity : Severity) : Bool :=
  match f.decisive? target names with
  | some d => d.threshold.admits severity
  | none => false

def admits (f : Filter) (e : Event) : Bool := f.enables e.target e.names e.severity

end Filter

end ProbeReport.Log
