import ProbeReport.Http.Client
import ProbeReport.Http.Credentials
import ProbeReport.Http.RequestLine
import ProbeReport.Url.Parser

namespace ProbeReport.Http

-- The requests that were made, in order, and what came of the last one.
structure Fetched where
  requests : List Request
  result : Except Failure Answer

namespace Fetched

def fail (failure : Failure) : Fetched := ⟨[], .error failure⟩

-- Makes one request and those that the client makes of its answer. Failures name the address
-- that was asked for first.
def follow (network : Network) (asked : String) (left : Nat) (trail : List Hop) (hop : Hop) :
    Fetched :=
  let tunnel := hop.url.scheme = "https"
  let reply := network.dashboard hop.url.requestText
  if !network.isRouted then fail (.unreachable asked tunnel)
  else if !network.isListening then fail (.refused asked tunnel)
  else if tunnel then ⟨[hop.request], .error (.tunnelRejected asked)⟩
  else
    match reply.breakage.filter (!·.inBody) with
    | some breakage => ⟨[hop.request], .error (.broken asked breakage)⟩
    | none =>
      match left, network.client.heed left (hop :: trail) reply.answer with
      | _, .take =>
        match reply.breakage with
        | some breakage => ⟨[hop.request], .error (.broken asked breakage)⟩
        | none => ⟨[hop.request], .ok reply.answer⟩
      | _, .giveUp causes => ⟨[hop.request], .error (.abandoned causes)⟩
      | left + 1, .ask next =>
        let rest := follow network asked left (hop :: trail) next
        ⟨hop.request :: rest.requests, rest.result⟩

end Fetched

-- The address to ask for, without the credentials that it held.
def firstHop (u : Url) : Hop :=
  match Credentials.ofUrl? u with
  | some credentials => ⟨{ u with user := "", password := "" }, some credentials.header⟩
  | none => ⟨u, none⟩

-- The address of a request, which needs a host.
def requestUrl [Url.Idna] (address : String) : Except Failure Url :=
  match Url.parse address with
  | .error why => .error (.unparsable why)
  | .ok url => if url.hasHost then .ok url else .error (.foreignScheme url.text)

-- Why a request cannot even be made ready.
def buildFailure? [Url.Idna] (address : String) : Option Failure :=
  match requestUrl address with
  | .error failure => some failure
  | .ok _ => none

-- Gets what an address stands for.
def fetch [Url.Idna] (network : Network) (address : String) : Fetched :=
  match requestUrl address with
  | .error failure => .fail failure
  | .ok url =>
    let hop := firstHop url
    let asked := hop.url.text
    if !hop.url.isWeb then .fail (.foreignScheme asked)
    else if !RequestLine.carries hop.url then .fail (.unsendable asked)
    else Fetched.follow network asked network.client.patience [] hop

end ProbeReport.Http
