import ProbeReport.Log.Directive
import ProbeReport.Text.Charset

-- What stands in where tables and patterns are not at hand.
namespace ProbeReport

-- Without its table all that is known of an encoding is that it is like ASCII, by and large.
instance : Text.Decoders where
  decode _ bytes := bytes.map fun b => if b < 0x80 then Char.ofNat b.toNat else '\ufffd'

-- Every text is taken for a pattern.
instance : Log.Patterns where
  fault? _ := none

end ProbeReport
