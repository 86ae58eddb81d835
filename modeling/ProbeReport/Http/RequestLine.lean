import ProbeReport.Url.Basic

namespace ProbeReport.Http.RequestLine

-- The longest address that can be sent.
def maxLength : Nat := 65534

def isHostChar (c : Char) : Bool :=
  c.isAlphanum || "!$&'()*+,-.:;=@[]_~".toList.contains c

-- What has been met in an authority: colons and a percent sign since the last at sign or
-- bracket, and the brackets.
structure Met where
  colons : Nat
  opened : Bool
  closed : Bool
  percent : Bool

def Met.step (m : Met) (c : Char) : Option Met :=
  if c = ':' then if m.colons < 8 then some { m with colons := m.colons + 1 } else none
  else if c = '[' then if m.percent ∨ m.opened then none else some { m with opened := true }
  else if c = ']' then
    if !m.opened ∨ m.closed then none
    else some { m with closed := true, colons := 0, percent := false }
  else if c = '@' then some { m with colons := 0, percent := false }
  else if c = '%' then some { m with percent := true }
  else if isHostChar c then some m
  else none

-- Whether a text can stand as host and port, with or without a user, in a request.
def carriesAuthority (s : List Char) : Bool :=
  match s.foldlM Met.step ⟨0, false, false, false⟩ with
  | none => false
  | some m =>
    s ≠ [] && m.opened = m.closed && m.colons ≤ 1 && !m.percent && s.getLast? ≠ some '@'

-- Not every valid address can be put into a request: some characters that a name may hold
-- cannot be sent, and its length is limited. Without an authority only a plain text that
-- looks like one can be sent.
def carries (u : Url) : Bool :=
  u.text.utf8ByteSize ≤ maxLength &&
    match u.host with
    | some host => carriesAuthority (u.userinfoText ++ host.text ++ u.portText).toList
    | none =>
      match u.path with
      | .fixed text =>
        u.query.isNone && u.fragment.isNone &&
          !text.toList.contains '/' && carriesAuthority (u.scheme ++ ":" ++ text).toList
      | .segments _ => false

end ProbeReport.Http.RequestLine
