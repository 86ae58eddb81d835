import ProbeReport.Text.Unprintable

namespace ProbeReport.Text.Quoted

-- Control characters are never written as they are, whatever the tables hold.
def needsCode (c : Char) : Bool :=
  c.toNat < 0x20 || (0x7f ≤ c.toNat && (c.toNat < 0xa0 || unprintable.contains c))

-- A character inside quotes: short escapes for the common ones, its code point in base
-- sixteen for any other that cannot be seen, itself otherwise.
def escape (c : Char) : List Char :=
  if c = '\x00' then ['\\', '0']
  else if c = '\t' then ['\\', 't']
  else if c = '\r' then ['\\', 'r']
  else if c = '\n' then ['\\', 'n']
  else if c = '\\' then ['\\', '\\']
  else if c = '"' then ['\\', '"']
  else if needsCode c then '\\' :: 'u' :: '\x7b' :: hexDigits c.toNat ++ ['\x7d']
  else [c]

-- A text in double quotes from which it can be read back.
def encode (s : String) : String :=
  String.ofList ('"' :: s.toList.flatMap escape ++ ['"'])

end ProbeReport.Text.Quoted
