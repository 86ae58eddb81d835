import ProbeReport.Causes
import ProbeReport.Http.Answer
import ProbeReport.Url.Basic

namespace ProbeReport.Http

-- Why a request brought no readable answer.
inductive Failure where
  | unparsable (why : Url.Error)
  | foreignScheme (address : String)
  | unsendable (address : String)
  | unreachable (address : String) (tunnel : Bool)
  | refused (address : String) (tunnel : Bool)
  | tunnelRejected (address : String)
  | broken (address : String) (breakage : Breakage)
  | abandoned (causes : Causes)
  deriving Repr, DecidableEq

namespace Failure

def sending (address : String) (causes : Causes) : Causes :=
  ("error sending request for url (" ++ address ++ ")") :: causes

def connecting (address : String) (tunnel : Bool) (why : String) : Causes :=
  sending address <|
    "client error (Connect)" ::
      (if tunnel then ["tunnel error: failed to create underlying connection"] else []) ++
      ["tcp connect error", why]

def breaking (address : String) : Breakage → Causes
  | .closedEarly =>
    sending address ["client error (SendRequest)", "connection closed before message completed"]
  | .wrongVersion =>
    sending address ["client error (SendRequest)", "invalid HTTP version parsed"]
  | .wrongLength =>
    sending address ["client error (SendRequest)", "invalid content-length parsed"]
  | .wrongChunk =>
    ["error decoding response body", "error reading a body from connection",
      "Invalid chunk size line: missing size digit"]
  | .cutShort =>
    ["error decoding response body", "error reading a body from connection",
      "end of file before message length reached"]

def foreign (address : String) : Causes :=
  ["builder error for url (" ++ address ++ ")", "URL scheme is not allowed"]

-- The failure with all that is behind it.
def causes : Failure → Causes
  | .unparsable why => ["builder error", why.message]
  | .foreignScheme address => foreign address
  | .unsendable address =>
    ["builder error for url (" ++ address ++ ")", "Parsed Url is not a valid Uri"]
  | .unreachable address tunnel =>
    connecting address tunnel "Network is unreachable (os error 101)"
  | .refused address tunnel =>
    connecting address tunnel "Connection refused (os error 111)"
  | .tunnelRejected address =>
    sending address ["client error (Connect)", "tunnel error: unsuccessful"]
  | .broken address breakage => breaking address breakage
  | .abandoned causes => causes

end Failure

-- A request about to be made.
structure Hop where
  url : Url
  authorization : Option String
  deriving Repr, DecidableEq

namespace Hop

-- Host and port to connect to.
def peer (u : Url) : String :=
  u.hostText ++ ":" ++ toString (u.effectivePort.getD 0)

-- To a secure address only a tunnel is asked for, and that without credentials.
def request (h : Hop) : Request :=
  if h.url.scheme = "https" then ⟨.connect, peer h.url, none⟩
  else ⟨.get, h.url.requestText, h.authorization⟩

end Hop

-- What a client makes of an answer when it may ask so many more times: it hands the answer
-- over, asks somewhere else, or gives up. It cannot ask when no request is left.
inductive Move : Nat → Type where
  | take {left : Nat} : Move left
  | giveUp {left : Nat} (causes : Causes) : Move left
  | ask {left : Nat} (hop : Hop) : Move (left + 1)

-- The client that makes the requests: how many redirects it follows for one address, and what
-- it makes of an answer. It knows what it asked for so far, the last of it first.
structure Client where
  patience : Nat
  heed (left : Nat) (trail : List Hop) (answer : Answer) : Move left

-- The client, whether there is a way to the server at all, whether anybody listens there, and
-- who.
structure Network where
  client : Client
  isRouted : Bool
  isListening : Bool
  dashboard : Dashboard

end ProbeReport.Http
