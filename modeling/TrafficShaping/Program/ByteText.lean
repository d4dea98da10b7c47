import TrafficShaping.Text.Utf8

/-!
# Texts of bytes

Programs pass bytes to each other, and only a reader takes them for characters. So inside of a machine a
text has one character for each byte, and what was written in several bytes is several characters.
-/

namespace TrafficShaping.Program.ByteText

def ofBytes (bytes : List UInt8) : String := String.ofList (bytes.map fun b => Char.ofNat b.toNat)

def toBytes (s : String) : List UInt8 := s.toList.map fun c => UInt8.ofNat c.toNat

/-- The text of the bytes of a text of characters. -/
def ofText (s : String) : String := ofBytes (Text.Utf8.encode s)

/-- What a reader makes of a text of bytes. -/
def toText (s : String) : String := Text.Utf8.decodeLossy (toBytes s)

end TrafficShaping.Program.ByteText
