namespace ProbeReport.Log

inductive Severity where
  | trace
  | debug
  | info
  | warn
  | error
  deriving Repr, DecidableEq

namespace Severity

def rank : Severity → Nat
  | .trace => 0
  | .debug => 1
  | .info => 2
  | .warn => 3
  | .error => 4

instance : LE Severity := ⟨fun a b => a.rank ≤ b.rank⟩

instance (a b : Severity) : Decidable (a ≤ b) := inferInstanceAs (Decidable (a.rank ≤ b.rank))

def name : Severity → String
  | .trace => "trace"
  | .debug => "debug"
  | .info => "info"
  | .warn => "warn"
  | .error => "error"

def all : List Severity := [.trace, .debug, .info, .warn, .error]

end Severity

-- The value of a field. A text is data; what is shown is the outcome of formatting. Integers
-- are as wide as they were recorded, and a float is told by its bits. How long a probe took is
-- told without its value.
inductive Value where
  | text (value : String)
  | shown (value : String)
  | int64 (value : Int64)
  | uint64 (value : UInt64)
  | int128 (value : BitVec 128)
  | uint128 (value : BitVec 128)
  | float (bits : UInt64)
  | bool (value : Bool)
  | elapsed
  deriving Repr, DecidableEq

-- What an event says: nothing, a text, or the outcome of formatting.
inductive Message where
  | none
  | text (value : String)
  | shown (value : String)
  deriving Repr, DecidableEq

-- A field of this name is the message.
def messageName : String := "message"

structure Event where
  severity : Severity
  target : String
  message : Message
  fields : List (String × Value)
  apart : messageName ∉ fields.map Prod.fst
  deriving Repr, DecidableEq

-- The names of all that an event records.
def Event.names (e : Event) : List String :=
  (if e.message = .none then [] else [messageName]) ++ e.fields.map Prod.fst

end ProbeReport.Log
