import ProbeReport.Json.Basic
import ProbeReport.Text.Digit

namespace ProbeReport.Json

-- Quotes, backslashes and control characters are escaped, and nothing else.
def escape (c : Char) : List Char :=
  if c = '"' then ['\\', '"']
  else if c = '\\' then ['\\', '\\']
  else if c = '\x08' then ['\\', 'b']
  else if c = '\x0c' then ['\\', 'f']
  else if c = '\n' then ['\\', 'n']
  else if c = '\r' then ['\\', 'r']
  else if c = '\t' then ['\\', 't']
  else if c.toNat < 0x20 then
    ['\\', 'u', '0', '0', Text.hexDigit (c.toNat / 16), Text.hexDigit (c.toNat % 16)]
  else [c]

def quote (s : String) : List Char :=
  '"' :: s.toList.flatMap escape ++ ['"']

def word : Bool → List Char
  | true => ['t', 'r', 'u', 'e']
  | false => ['f', 'a', 'l', 's', 'e']

mutual

-- The text without any blank.
def compactChars : Json → List Char
  | .null => ['n', 'u', 'l', 'l']
  | .bool value => word value
  | .number spelling => spelling.toList
  | .string value => quote value
  | .array [] => ['[', ']']
  | .array (item :: rest) => '[' :: compactChars item ++ compactItems rest
  | .object [] => ['\x7b', '\x7d']
  | .object ((key, value) :: rest) =>
    '\x7b' :: quote key ++ ':' :: compactChars value ++ compactMembers rest

def compactItems : List Json → List Char
  | [] => [']']
  | item :: rest => ',' :: compactChars item ++ compactItems rest

def compactMembers : List (String × Json) → List Char
  | [] => ['\x7d']
  | (key, value) :: rest => ',' :: quote key ++ ':' :: compactChars value ++ compactMembers rest

end

-- The start of a line at a nesting level: two blanks for each level.
def newline (level : Nat) : List Char :=
  '\n' :: List.replicate (2 * level) ' '

mutual

-- One item or member a line; empty containers stay on the line.
def prettyChars (level : Nat) : Json → List Char
  | .null => ['n', 'u', 'l', 'l']
  | .bool value => word value
  | .number spelling => spelling.toList
  | .string value => quote value
  | .array [] => ['[', ']']
  | .array (item :: rest) =>
    '[' :: newline (level + 1) ++ prettyChars (level + 1) item ++ prettyItems level rest
  | .object [] => ['\x7b', '\x7d']
  | .object ((key, value) :: rest) =>
    '\x7b' :: newline (level + 1) ++ quote key ++ ':' :: ' ' :: prettyChars (level + 1) value ++
      prettyMembers level rest

def prettyItems (level : Nat) : List Json → List Char
  | [] => newline level ++ [']']
  | item :: rest =>
    ',' :: newline (level + 1) ++ prettyChars (level + 1) item ++ prettyItems level rest

def prettyMembers (level : Nat) : List (String × Json) → List Char
  | [] => newline level ++ ['\x7d']
  | (key, value) :: rest =>
    ',' :: newline (level + 1) ++ quote key ++ ':' :: ' ' :: prettyChars (level + 1) value ++
      prettyMembers level rest

end

def compact (value : Json) : String :=
  String.ofList value.compactChars

def pretty (value : Json) : String :=
  String.ofList (value.prettyChars 0)

end ProbeReport.Json
