import ProbeReport.Text.Digit

namespace ProbeReport.Url.Percent

def encodeByte (b : UInt8) : List Char :=
  ['%', Text.hexDigitUpper (b.toNat / 16), Text.hexDigitUpper (b.toNat % 16)]

-- Control characters and everything beyond ASCII are always encoded.
def isControl (c : Char) : Bool := c.toNat < 0x20 || 0x7e < c.toNat

-- Encodes what a part of an address cannot hold as it is.
def encodeChar (set : Char → Bool) (c : Char) : List Char :=
  if isControl c || set c then (String.utf8EncodeChar c).flatMap encodeByte else [c]

def encode (set : Char → Bool) (s : List Char) : List Char := s.flatMap (encodeChar set)

-- A percent sign without two hexadecimal digits behind it stands for itself.
def decode : List Char → List UInt8
  | [] => []
  | '%' :: a :: b :: rest =>
    match Text.hexValue? a, Text.hexValue? b with
    | some high, some low => UInt8.ofNat (high * 16 + low) :: decode rest
    | _, _ => 0x25 :: decode (a :: b :: rest)
  | c :: rest => String.utf8EncodeChar c ++ decode rest

def none (_ : Char) : Bool := false

def fragment (c : Char) : Bool := c = ' ' || c = '"' || c = '<' || c = '>' || c = '\x60'

def query (c : Char) : Bool := c = ' ' || c = '"' || c = '#' || c = '<' || c = '>'

-- Addresses with a well-known scheme also encode the apostrophe in their query.
def specialQuery (c : Char) : Bool := query c || c = '\''

def path (c : Char) : Bool :=
  fragment c || c = '#' || c = '?' || c = '\x7b' || c = '\x7d'

def userinfo (c : Char) : Bool :=
  path c || c = '/' || c = ':' || c = ';' || c = '=' || c = '@' || c = '[' || c = '\\' ||
    c = ']' || c = '^' || c = '|'

end ProbeReport.Url.Percent
