namespace ProbeReport.Url

-- How a name that is not plain gets its form for the wire. That form is ASCII, and a name with
-- a blank or a control in it has none.
class Idna where
  toAscii? : List Char → Option (List Char)
  isAscii {name wire : List Char} :
    toAscii? name = some wire → ∀ c ∈ wire, c.toNat < 0x80
  isClear {name wire : List Char} :
    toAscii? name = some wire → ∀ c ∈ name, 0x20 < c.toNat

end ProbeReport.Url
