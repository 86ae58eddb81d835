import ProbeReport.Url.Basic

namespace ProbeReport.Http

-- What a server sends back. Several content types may be given, in order; a location says
-- where to look instead.
structure Answer where
  status : Nat
  contentTypes : List (List UInt8)
  location : Option (List UInt8)
  body : List UInt8
  deriving Repr, DecidableEq

-- How an exchange can break after the connection stands: before the head of the answer is
-- complete, or within its body.
inductive Breakage where
  | closedEarly
  | wrongVersion
  | wrongLength
  | wrongChunk
  | cutShort
  deriving Repr, DecidableEq

def Breakage.inBody : Breakage → Bool
  | .wrongChunk | .cutShort => true
  | _ => false

structure Reply where
  answer : Answer
  breakage : Option Breakage
  deriving Repr, DecidableEq

-- What stands behind the addresses: a reply for the text of every request address.
abbrev Dashboard := String → Reply

inductive Method where
  | get
  | connect
  deriving Repr, DecidableEq

-- A request as the server sees it. To connect names a host and a port only.
structure Request where
  method : Method
  target : String
  authorization : Option String
  deriving Repr, DecidableEq

namespace Answer

-- A server that has nothing at an address.
def notFound : Answer := ⟨404, ["text/plain".toUTF8.toList], none, "not found".toUTF8.toList⟩

def isHeaderBlank (b : UInt8) : Bool := b = 0x20 || b = 0x09

-- Blanks around a header value are not part of it.
def trimHeader (value : List UInt8) : List UInt8 :=
  ((value.dropWhile isHeaderBlank).reverse.dropWhile isHeaderBlank).reverse

-- A header value made of visible characters and blanks only.
def headerText? (value : List UInt8) : Option String :=
  let trimmed := trimHeader value
  if trimmed.all fun b => (0x20 ≤ b && b ≤ 0x7e) || b = 0x09 then
    some (String.ofList (trimmed.map fun b => Char.ofNat b.toNat))
  else none

-- The first content type counts, if it can be read.
def contentType (a : Answer) : Option String :=
  match a.contentTypes with
  | [] => none
  | first :: _ => headerText? first

-- Some answers never have a body.
def content (a : Answer) : List UInt8 := if a.status = 204 ∨ a.status = 304 then [] else a.body

end Answer

namespace Dashboard

-- What follows the authority in an address.
def resourceOf (address : String) : String :=
  let behindScheme := (address.toList.dropWhile (· ≠ '/')).drop 2
  String.ofList (behindScheme.dropWhile fun c => c ≠ '/' && c ≠ '?')

-- A server that answers from a table of addresses and of paths, and else always the same.
def ofTable (routes : List (String × Reply)) (otherwise : Option Reply) : Dashboard :=
  fun address =>
    (routes.lookup address <|> routes.lookup (resourceOf address) <|> otherwise).getD
      ⟨.notFound, none⟩

end Dashboard

end ProbeReport.Http
