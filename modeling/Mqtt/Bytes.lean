/-!
Byte strings as lists, and the two conversions that every format here needs: between text and its
UTF-8 bytes, and between a 16-bit number and its two bytes, high byte first.
-/

namespace Mqtt
set_option autoImplicit false

abbrev Bytes := List UInt8

namespace Bytes

/-- The UTF-8 bytes of a text. -/
def ofText (s : String) : Bytes := s.toUTF8.data.toList

/-- The text that the bytes spell in UTF-8; none when they are not well-formed UTF-8. -/
def toText? (bs : Bytes) : Option String := String.fromUTF8? ⟨bs.toArray⟩

def ofUInt16 (n : UInt16) : Bytes := [(n >>> 8).toUInt8, n.toUInt8]

def toUInt16 (hi lo : UInt8) : UInt16 := (hi.toUInt16 <<< 8) ||| lo.toUInt16

theorem ofUInt16_length (n : UInt16) : (ofUInt16 n).length = 2 := rfl

end Bytes

end Mqtt
