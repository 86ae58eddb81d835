import ProbeReport.Sink
import ProbeReport.Text.Base64
import ProbeReport.Url.Basic

namespace ProbeReport.Http

-- What an address gives away to its own server: a user and a password, either of which may
-- be missing.
structure Credentials where
  user : String
  password : Option String
  deriving Repr, DecidableEq

namespace Credentials

-- Credentials stand percent-encoded in an address. They are left there when the user is not
-- readable; a password that is not readable is dropped.
def ofUrl? (u : Url) : Option Credentials :=
  match Text.Utf8.decode? (Url.Percent.decode u.user.toList) with
  | none => none
  | some user =>
    let password :=
      if u.password = "" then none
      else Text.Utf8.decode? (Url.Percent.decode u.password.toList)
    if user ≠ "" ∨ password.isSome then some ⟨user, password⟩ else none

-- The value of the authorization header.
def header (c : Credentials) : String :=
  "Basic " ++ String.ofList (Text.Base64.encode (utf8 (c.user ++ ":" ++ c.password.getD "")))

end Credentials

end ProbeReport.Http
