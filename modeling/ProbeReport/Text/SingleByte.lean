namespace ProbeReport.Text.SingleByte

-- The thirty-two bytes from 0x80 on, where this encoding differs from the code points.
def windowsUpper : List Nat :=
  [0x20ac, 0x81, 0x201a, 0x192, 0x201e, 0x2026, 0x2020, 0x2021,
   0x2c6, 0x2030, 0x160, 0x2039, 0x152, 0x8d, 0x17d, 0x8f,
   0x90, 0x2018, 0x2019, 0x201c, 0x201d, 0x2022, 0x2013, 0x2014,
   0x2dc, 0x2122, 0x161, 0x203a, 0x153, 0x9d, 0x17e, 0x178]

def windows1252 (b : UInt8) : Char :=
  Char.ofNat <|
    if 0x80 ≤ b ∧ b ≤ 0x9f then windowsUpper.getD (b.toNat - 0x80) b.toNat else b.toNat

-- The upper half goes to a private range, so that every byte can be told again.
def userDefined (b : UInt8) : Char :=
  Char.ofNat (if b < 0x80 then b.toNat else 0xf780 + (b.toNat - 0x80))

end ProbeReport.Text.SingleByte
