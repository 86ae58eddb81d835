import ProbeReport.Url.Percent
import ProbeReport.Url.Ipv4
import ProbeReport.Url.Ipv6
import ProbeReport.Url.Domain
import ProbeReport.Text.Utf8

namespace ProbeReport

namespace Url

inductive Error where
  | relativeWithoutBase
  | emptyHost
  | invalidPort
  | invalidDomain
  | invalidHostCharacter
  | invalidIpv4
  | invalidIpv6
  deriving Repr, DecidableEq

def Error.message : Error → String
  | .relativeWithoutBase => "relative URL without a base"
  | .emptyHost => "empty host"
  | .invalidPort => "invalid port number"
  | .invalidDomain => "invalid international domain name"
  | .invalidHostCharacter => "invalid domain character"
  | .invalidIpv4 => "invalid IPv4 address"
  | .invalidIpv6 => "invalid IPv6 address"

-- A host by name or by number. Schemes that are not well known have hosts without a
-- meaning, which may be empty.
inductive Host where
  | domain (name : String)
  | ipv4 (address : Nat)
  | ipv6 (pieces : List Nat)
  | free (text : String)
  deriving Repr, DecidableEq

def Host.text : Host → String
  | .domain name => name
  | .ipv4 address => String.ofList (Ipv4.text address)
  | .ipv6 pieces => String.ofList ('[' :: Ipv6.text pieces ++ [']'])
  | .free text => text

-- A path is made of segments, or it is a text that relative references cannot touch.
inductive Path where
  | segments (parts : List String)
  | fixed (text : String)
  deriving Repr, DecidableEq

def Path.text : Path → String
  | .segments parts => parts.foldl (fun done part => done ++ "/" ++ part) ""
  | .fixed text => text

end Url

-- A parsed address. An empty user or password is none; the port is absent when it is the
-- usual one of the scheme; without a host there is no authority part at all.
structure Url where
  scheme : String
  user : String
  password : String
  host : Option Url.Host
  port : Option Nat
  path : Url.Path
  query : Option String
  fragment : Option String
  deriving Repr, DecidableEq

namespace Url

-- The schemes whose addresses have a host and a path like the web's, with their ports.
def usualPorts : List (String × Nat) :=
  [("http", 80), ("https", 443), ("ws", 80), ("wss", 443), ("ftp", 21)]

def usualPort? (scheme : String) : Option Nat := usualPorts.lookup scheme

def isSpecial (scheme : String) : Bool := (usualPort? scheme).isSome || scheme = "file"

def isWeb (u : Url) : Bool := u.scheme = "http" || u.scheme = "https"

-- A name or a number to reach; an empty host is none.
def hasHost (u : Url) : Bool :=
  match u.host with
  | none => false
  | some host => host.text ≠ ""

def hostText (u : Url) : String := (u.host.map Host.text).getD ""

-- The port to connect to.
def effectivePort (u : Url) : Option Nat := u.port <|> usualPort? u.scheme

def userinfoText (u : Url) : String :=
  if u.user = "" ∧ u.password = "" then ""
  else if u.password = "" then u.user ++ "@"
  else u.user ++ ":" ++ u.password ++ "@"

def portText (u : Url) : String :=
  match u.port with
  | none => ""
  | some port => ":" ++ toString port

-- A path that begins with an empty segment could be taken for a host; a dot prevents that.
def authorityText (u : Url) : String :=
  match u.host with
  | some host => "//" ++ u.userinfoText ++ host.text ++ u.portText
  | none =>
    match u.path with
    | .segments ("" :: _ :: _) => "/."
    | _ => ""

-- The part of an address behind the authority that is sent to a server.
def resource (u : Url) : String :=
  u.path.text ++ (u.query.map ("?" ++ ·)).getD ""

-- The address without its fragment, as requests name it.
def requestText (u : Url) : String := u.scheme ++ ":" ++ u.authorityText ++ u.resource

def text (u : Url) : String := u.requestText ++ (u.fragment.map ("#" ++ ·)).getD ""

end Url

end ProbeReport
