import LineScript.Text.Basic

/-!
# Numerals

Integers as programs read them: blanks, a sign, and the digits of a base. Where the base is not given,
a zero begins an octal numeral, and a zero and an `x` before a hexadecimal digit a hexadecimal one. What
follows the digits is handed back. Programs keep integers in words of 64 bits.
-/

namespace LineScript.Programs

set_option autoImplicit false

structure Numeral where
  negative : Bool
  magnitude : Nat
  rest : Text

namespace Numeral

def isBlank (c : Char) : Bool := " \t\n\x0b\x0c\r".toList.contains c

def digitValue? (base : Nat) (c : Char) : Option Nat :=
  let lower := c.toLower
  let value :=
    if c.isDigit then c.toNat - '0'.toNat
    else if 'a' ≤ lower && lower ≤ 'z' then lower.toNat - 'a'.toNat + 10
    else base
  if value < base then some value else none

def leadingDigits (base most : Nat) (text : Text) : List Nat :=
  ((text.take most).map (digitValue? base)).takeWhile Option.isSome |>.filterMap id

def numberOf (base : Nat) (digits : List Nat) : Nat :=
  digits.foldl (fun number digit => number * base + digit) 0

def decimal (text : Text) : Nat × Text :=
  (numberOf 10 (leadingDigits 10 text.length text), text.dropWhile Char.isDigit)

def sign : Text → Bool × Text
  | '-' :: rest => (true, rest)
  | '+' :: rest => (false, rest)
  | text => (false, text)

/-- The base that the start of a text asks for, and the digits with what follows them. -/
def detectBase : Text → Nat × Text
  | '0' :: x :: c :: rest =>
    if (x == 'x' || x == 'X') && (digitValue? 16 c).isSome then (16, c :: rest)
    else (8, '0' :: x :: c :: rest)
  | '0' :: rest => (8, '0' :: rest)
  | text => (10, text)

def read? (base? : Option Nat) (text : Text) : Option Numeral :=
  let (negative, unsigned) := sign (text.dropWhile isBlank)
  let (base, body) :=
    match base? with
    | some base => (base, unsigned)
    | none => detectBase unsigned
  match leadingDigits base body.length body with
  | [] => none
  | digits => some ⟨negative, numberOf base digits, body.drop digits.length⟩

def wordLimit : Nat := 0x10000000000000000

def toWord (value : Int) : Nat := (value % wordLimit).toNat

def ofWord (word : Nat) : Int := if word < wordLimit / 2 then word else (word : Int) - wordLimit

/-- An integer brought into the range of signed words, as arithmetic on words leaves it. -/
def wrap (value : Int) : Int := ofWord (toWord value)

/-- The number a numeral denotes, unless that is out of the range of signed words; then the end of the
range that is nearer, and `false`. -/
def signed (numeral : Numeral) : Int × Bool :=
  if numeral.negative then
    if numeral.magnitude ≤ wordLimit / 2 then (-(numeral.magnitude : Int), true)
    else (-((wordLimit / 2 : Nat) : Int), false)
  else if numeral.magnitude < wordLimit / 2 then (numeral.magnitude, true)
  else ((wordLimit / 2 : Nat) - 1, false)

/-- The word a numeral denotes, where a sign means the complement; the last one and `false` if there
is none. -/
def unsigned (numeral : Numeral) : Nat × Bool :=
  if numeral.magnitude < wordLimit then
    (if numeral.negative then toWord (-(numeral.magnitude : Int)) else numeral.magnitude, true)
  else (wordLimit - 1, false)

end Numeral

end LineScript.Programs
