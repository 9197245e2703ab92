import LineScript.Text.Basic

/-!
# UTF-8

One decoder reads a byte sequence as the scalar values it encodes and the ill-formed parts between
them. An ill-formed part is the longest start of a well-formed sequence that the bytes do not
continue, or one byte that starts none. Strict decoding refuses such parts; lossy decoding puts
U+FFFD in place of each.
-/

namespace LineScript.Utf8

set_option autoImplicit false

/-- The byte that continues a sequence and carries the low six bits of `code`. -/
def continuation (code : Nat) : UInt8 := UInt8.ofNat (0x80 + code % 0x40)

def encodeChar (c : Char) : List UInt8 :=
  let code := c.toNat
  if code < 0x80 then [UInt8.ofNat code]
  else if code < 0x800 then [UInt8.ofNat (0xC0 + code / 0x40), continuation code]
  else if code < 0x10000 then
    [UInt8.ofNat (0xE0 + code / 0x1000), continuation (code / 0x40), continuation code]
  else
    [UInt8.ofNat (0xF0 + code / 0x40000), continuation (code / 0x1000),
      continuation (code / 0x40), continuation code]

def encode (text : Text) : List UInt8 := text.flatMap encodeChar

def size (text : Text) : Nat := (encode text).length

/-- A sequence that has begun: the bits read so far, the bytes still to come and the range of the
next one. -/
structure Pending where
  bits : Nat
  missing : Nat
  low : UInt8
  high : UInt8

inductive Lead where
  | scalar (c : Char)
  | opening (pending : Pending)
  | illFormed

/-- The classes of leading bytes. The range of the second byte excludes overlong forms, surrogates
and values beyond U+10FFFF. -/
def lead (byte : UInt8) : Lead :=
  let code := byte.toNat
  if code < 0x80 then .scalar (Char.ofNat code)
  else if code < 0xC2 then .illFormed
  else if code < 0xE0 then .opening ⟨code - 0xC0, 1, 0x80, 0xBF⟩
  else if code = 0xE0 then .opening ⟨0, 2, 0xA0, 0xBF⟩
  else if code = 0xED then .opening ⟨0xD, 2, 0x80, 0x9F⟩
  else if code < 0xF0 then .opening ⟨code - 0xE0, 2, 0x80, 0xBF⟩
  else if code = 0xF0 then .opening ⟨0, 3, 0x90, 0xBF⟩
  else if code < 0xF4 then .opening ⟨code - 0xF0, 3, 0x80, 0xBF⟩
  else if code = 0xF4 then .opening ⟨4, 3, 0x80, 0x8F⟩
  else .illFormed

/-- The scalar values of a byte sequence, with `none` for each ill-formed part. -/
def scalars : Option Pending → List UInt8 → List (Option Char)
  | none, [] => []
  | some _, [] => [none]
  | none, byte :: rest =>
    match lead byte with
    | .scalar c => some c :: scalars none rest
    | .opening pending => scalars (some pending) rest
    | .illFormed => none :: scalars none rest
  | some pending, byte :: rest =>
    if pending.low ≤ byte ∧ byte ≤ pending.high then
      let bits := pending.bits * 0x40 + byte.toNat % 0x40
      if pending.missing ≤ 1 then some (Char.ofNat bits) :: scalars none rest
      else scalars (some ⟨bits, pending.missing - 1, 0x80, 0xBF⟩) rest
    else
      match lead byte with
      | .scalar c => none :: some c :: scalars none rest
      | .opening next => none :: scalars (some next) rest
      | .illFormed => none :: none :: scalars none rest

def decode? (bytes : List UInt8) : Option Text := (scalars none bytes).mapM id

def replacement : Char := Char.ofNat 0xFFFD

def decodeLossy (bytes : List UInt8) : Text :=
  (scalars none bytes).map (·.getD replacement)

@[simp] theorem encode_nil : encode [] = [] := rfl

@[simp] theorem encode_append (first second : Text) :
    encode (first ++ second) = encode first ++ encode second := by
  simp [encode]

end LineScript.Utf8
