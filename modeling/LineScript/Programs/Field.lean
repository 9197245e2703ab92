import LineScript.Text.Basic

/-!
# Fields

A formatted value stands in a field of some width, to its right unless its left is asked for. Numbers
may be filled up with zeros between their sign and their digits.
-/

namespace LineScript.Programs

set_option autoImplicit false

structure Field where
  left : Bool
  plus : Bool
  blank : Bool
  alternate : Bool
  zeros : Bool
  width : Nat
  precision : Option Nat

namespace Field

def plain : Field := ⟨false, false, false, false, false, 0, none⟩

def withFlag (field : Field) : Char → Field
  | '-' => { field with left := true }
  | '+' => { field with plus := true }
  | ' ' => { field with blank := true }
  | '#' => { field with alternate := true }
  | '0' => { field with zeros := true }
  | _ => field

/-- The field with a width that was given as a number; a negative one asks for the left as well. -/
def withWidth (field : Field) (width : Int) : Field :=
  { field with left := field.left || width < 0, width := width.natAbs }

/-- The field with a precision that was given as a number; a negative one is none. -/
def withPrecision (field : Field) (precision : Int) : Field :=
  { field with precision := if precision < 0 then none else some precision.toNat }

def pad (field : Field) (text : Text) : Text :=
  let blanks := List.replicate (field.width - text.length) ' '
  if field.left then text ++ blanks else blanks ++ text

/-- A number, given as its sign or mark and its digits, filled up with zeros or blanks. -/
def padNumber (field : Field) (zeros : Bool) (mark digits : Text) : Text :=
  let missing := field.width - (mark.length + digits.length)
  if zeros && !field.left then mark ++ List.replicate missing '0' ++ digits
  else field.pad (mark ++ digits)

def signOf (field : Field) (negative : Bool) : Text :=
  if negative then ['-'] else if field.plus then ['+'] else if field.blank then [' '] else []

def ofText (field : Field) (text : Text) : Text :=
  field.pad (match field.precision with
    | some most => text.take most
    | none => text)

/-- Digits with zeros before them up to the precision. A zero without any asked for has none. -/
def digits (field : Field) (base value : Nat) : Text :=
  let written := if value = 0 && field.precision == some 0 then [] else Nat.toDigits base value
  List.replicate (field.precision.getD 0 - written.length) '0' ++ written

def ofInteger (field : Field) (value : Int) : Text :=
  field.padNumber (field.zeros && field.precision.isNone) (field.signOf (value < 0))
    (field.digits 10 value.natAbs)

/-- A natural number in the digits of a base. The alternate form shows the base. -/
def ofNatural (field : Field) (base : Nat) (upper : Bool) (value : Nat) : Text :=
  let digits := field.digits base value
  let digits :=
    if field.alternate && base = 8 && digits.head? != some '0' then '0' :: digits else digits
  let mark := if field.alternate && base = 16 && value ≠ 0 then ['0', 'x'] else []
  let raise (text : Text) : Text := if upper then text.map Char.toUpper else text
  field.padNumber (field.zeros && field.precision.isNone) (raise mark) (raise digits)

end Field

end LineScript.Programs
