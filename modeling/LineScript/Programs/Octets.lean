import LineScript.Text.Utf8

/-!
# Texts of octets

Programs work on bytes. A text of octets holds one character for each byte, whose code is the byte's
value.
-/

namespace LineScript.Octets

set_option autoImplicit false

def ofBytes (bytes : List UInt8) : Text := bytes.map fun byte => Char.ofNat byte.toNat

def bytes (octets : Text) : List UInt8 := octets.map fun c => UInt8.ofNat c.toNat

def ofText (text : Text) : Text := ofBytes (Utf8.encode text)

def text (octets : Text) : Text := Utf8.decodeLossy (bytes octets)

end LineScript.Octets
