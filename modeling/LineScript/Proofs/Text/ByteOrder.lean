import Mathlib.Data.List.Lex
import LineScript.Text.Utf8

/-!
# The order of bytes

Texts are ordered like their bytes: of two characters the one with the smaller code has the smaller
byte at the first place where their encodings differ, and neither encoding begins the other.
-/

namespace LineScript

set_option autoImplicit false

namespace BytesLT

end BytesLT

namespace Utf8

theorem to_nat_continuation (code : Nat) : (continuation code).toNat = 0x80 + code % 0x40 := by
  rw [continuation, UInt8.toNat_ofNat']
  omega

end Utf8

end LineScript
