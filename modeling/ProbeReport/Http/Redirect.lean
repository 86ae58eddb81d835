import ProbeReport.Http.Client
import ProbeReport.Http.RequestLine
import ProbeReport.Url.Parser

namespace ProbeReport.Http

namespace Hop

def isSamePeer (u v : Url) : Bool := u.hostText = v.hostText && u.effectivePort = v.effectivePort

-- Credentials are not taken to another host or port.
def next (h : Hop) (target : Url) : Hop :=
  ⟨target, if isSamePeer h.url target then h.authorization else none⟩

end Hop

def redirectStatuses : List Nat := [301, 302, 303, 307, 308]

namespace Client

-- The address that a location names as seen from the one that was asked for, when a request
-- can carry it. Its fragment stays behind.
def locate? [Url.Idna] (base : Url) (location : List UInt8) : Option Url := do
  let reference ← Text.Utf8.decode? (Answer.trimHeader location)
  let target ← (base.resolve reference).toOption
  if RequestLine.carries target then some { target with fragment := none } else none

-- Where an answer to a request for an address sends the client.
def target? [Url.Idna] (base : Url) (answer : Answer) : Option Url :=
  if redirectStatuses.contains answer.status then answer.location.bind (locate? base) else none

def tooManyRedirects (last : String) : Causes :=
  ["error following redirect for url (" ++ last ++ ")", "too many redirects"]

-- A client that follows ten redirects, to web addresses only.
def standard [Url.Idna] : Client where
  patience := 10
  heed left trail answer :=
    match trail with
    | [] => .take
    | hop :: _ =>
      match target? hop.url answer, left with
      | none, _ => .take
      | some _, 0 => .giveUp (tooManyRedirects hop.url.requestText)
      | some target, _ + 1 =>
        if target.isWeb then .ask (hop.next target) else .giveUp (Failure.foreign target.text)

end Client

-- A network with no way to anywhere.
def Network.unrouted [Url.Idna] : Network := ⟨.standard, false, false, fun _ => ⟨.notFound, none⟩⟩

end ProbeReport.Http
