namespace ProbeReport

inductive IoKind where
  | notFound
  | permissionDenied
  | brokenPipe
  | wouldBlock
  | invalidInput
  | writeZero
  | storageFull
  | fileTooLarge
  | other
  | uncategorized
  deriving Repr, DecidableEq

-- A failure of the output. What the system refuses comes with its number. A sink that takes
-- nothing without complaining is a failure of the writer, which then has a wording of its own.
inductive IoError where
  | custom (kind : IoKind) (message : String)
  | system (code : Nat) (kind : IoKind) (message : String)
  | shortWrite
  deriving Repr, DecidableEq

def IoError.message : IoError → String
  | .custom _ message => message
  | .system code _ message => message ++ " (os error " ++ toString code ++ ")"
  | .shortWrite => "failed to write whole buffer"

-- The bytes of a text.
def utf8 (text : String) : List UInt8 := text.toList.flatMap String.utf8EncodeChar

-- Where the report goes: how many bytes it takes in all, how it behaves when it is full,
-- whether it can be flushed, and what has happened to it so far.
structure Sink where
  limit : Option Nat
  silentWhenFull : Bool
  flushFails : Bool
  bytes : List UInt8
  flushes : Nat
  deriving Repr

namespace Sink

def unlimited : Sink := ⟨none, false, false, [], 0⟩

-- The part of the bytes that still fits.
def fitting (s : Sink) (bytes : List UInt8) : List UInt8 :=
  match s.limit with
  | none => bytes
  | some limit => bytes.take (limit - s.bytes.length)

-- One attempt to write: takes as many bytes as still fit, and tells how many these were. A
-- full sink complains, or takes nothing without a word.
def accept (s : Sink) (bytes : List UInt8) : Except IoError Nat × Sink :=
  let taken := s.fitting bytes
  if taken = [] ∧ bytes ≠ [] ∧ s.silentWhenFull = false then
    (.error (.custom .brokenPipe "sink closed"), s)
  else (.ok taken.length, { s with bytes := s.bytes ++ taken })

-- Tries again with what is left until all is written. A sink that takes nothing has failed.
def writeBytes (s : Sink) : List UInt8 → Except IoError Unit × Sink
  | [] => (.ok (), s)
  | byte :: more =>
    match s.accept (byte :: more) with
    | (.error e, s) => (.error e, s)
    | (.ok 0, s) => (.error .shortWrite, s)
    | (.ok (taken + 1), s) => writeBytes s (more.drop taken)
termination_by bytes => bytes.length

def write (s : Sink) (text : String) : Except IoError Unit × Sink :=
  s.writeBytes (utf8 text)

def flush (s : Sink) : Except IoError Unit × Sink :=
  (if s.flushFails then .error (.custom .other "flush failed") else .ok (),
    { s with flushes := s.flushes + 1 })

end Sink

end ProbeReport
