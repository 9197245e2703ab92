import LineScript.Programs.Field
import LineScript.Programs.Numeral

/-!
# Numbers with a binary exponent

A number is a whole number times a power of two, an infinity, or not a number. A format says how many
binary digits a whole number may have and how far the exponent reaches; what is read is rounded to the
nearest number of the format, a half to the even one. Numbers are written exactly: every decimal digit
asked for is a digit of the number itself, the last one rounded, a half to the even digit.
-/

namespace LineScript.Programs

set_option autoImplicit false

/-- How numbers are kept: the binary digits, the least exponent of the last of them, the exponent that
no number reaches, and the digits that stand before the point in hexadecimal form. -/
structure BinaryFormat where
  digits : Nat
  least : Int
  limit : Int
  leading : Nat

namespace BinaryFormat

def double : BinaryFormat := ⟨53, -1074, 1024, 1⟩

def extended : BinaryFormat := ⟨64, -16445, 16384, 4⟩

end BinaryFormat

inductive Floating where
  | finite (negative : Bool) (whole : Nat) (exponent : Int)
  | infinite (negative : Bool)
  | undefined (negative : Bool)

namespace Floating

def nearest (numerator denominator : Nat) : Nat :=
  let quotient := numerator / denominator
  let twice := 2 * (numerator % denominator)
  if denominator < twice || twice = denominator && quotient % 2 = 1 then quotient + 1 else quotient

def bitLength (n : Nat) : Nat := if n = 0 then 0 else Nat.log2 n + 1

/-- The number of a format nearest to a quotient, and whether the format has the quotient in its range.
It has not if the quotient is too large, or so small that digits are lost to its smallness. -/
def round (format : BinaryFormat) (negative : Bool) (numerator denominator : Nat) :
    Floating × Bool :=
  if numerator = 0 then (.finite negative 0 0, true)
  else
    let estimate : Int := (bitLength numerator : Int) - bitLength denominator - format.digits
    let wholeAt (exponent : Int) : Nat :=
      if 0 ≤ exponent then nearest numerator (denominator <<< exponent.toNat)
      else nearest (numerator <<< (-exponent).toNat) denominator
    let first := max format.least estimate
    let fits (exponent : Int) : Bool := wholeAt exponent < 1 <<< format.digits
    let exponent := if fits first then first else if fits (first + 1) then first + 1 else first + 2
    let whole := wholeAt exponent
    if format.limit < (bitLength whole : Int) + exponent then (.infinite negative, false)
    else
      let isExact := whole * denominator <<< exponent.toNat = numerator <<< (-exponent).toNat
      (.finite negative whole exponent, isExact || format.digits ≤ bitLength whole)

/-- A number as it was read, with what follows it and whether a format could hold it. -/
structure Reading where
  value : Floating
  rest : Text
  inRange : Bool

def afterWord? (word : String) (text : Text) : Option Text :=
  let length := word.length
  if (text.take length).map Char.toLower == word.toList then some (text.drop length) else none

/-- Digits with an optional point among them: their value, how many of them follow the point, and what
follows them. -/
def readDigits? (base : Nat) (text : Text) : Option (Nat × Nat × Text) :=
  let before := Numeral.leadingDigits base text.length text
  let rest := text.drop before.length
  match rest with
  | '.' :: tail =>
    let after := Numeral.leadingDigits base tail.length tail
    if before.isEmpty && after.isEmpty then none
    else some (Numeral.numberOf base (before ++ after), after.length, tail.drop after.length)
  | _ => if before.isEmpty then none else some (Numeral.numberOf base before, 0, rest)

def readExponent (letter : Char) (text : Text) : Int × Text :=
  match text with
  | c :: rest =>
    let (negative, body) := Numeral.sign rest
    let digits := Numeral.leadingDigits 10 body.length body
    if c.toLower == letter && !digits.isEmpty then
      let value : Int := Numeral.numberOf 10 digits
      (if negative then -value else value, body.drop digits.length)
    else (0, text)
  | [] => (0, [])

/-- A number times a power of a base, rounded. Powers far beyond every format are cut. -/
def scaled (format : BinaryFormat) (negative : Bool) (whole base : Nat) (power : Int) :
    Floating × Bool :=
  let reach : Int := 20000 + 4 * (bitLength whole : Int)
  let power := max (-reach) (min reach power)
  if 0 ≤ power then round format negative (whole * Nat.pow base power.toNat) 1
  else round format negative whole (Nat.pow base (-power).toNat)

def read? (format : BinaryFormat) (text : Text) : Option Reading :=
  let (negative, body) := Numeral.sign (text.dropWhile Numeral.isBlank)
  match afterWord? "infinity" body, afterWord? "inf" body, afterWord? "nan" body,
      afterWord? "0x" body with
  | some rest, _, _, _ | none, some rest, _, _ => some ⟨.infinite negative, rest, true⟩
  | none, none, some rest, _ =>
    let inside := (rest.drop 1).takeWhile fun c => c.isAlphanum || c == '_'
    let rest :=
      if rest.head? == some '(' && rest[inside.length + 1]? == some ')' then
        rest.drop (inside.length + 2)
      else rest
    some ⟨.undefined negative, rest, true⟩
  | none, none, none, hexadecimal =>
    match hexadecimal.bind (readDigits? 16) with
    | some (whole, places, rest) =>
      let (power, rest) := readExponent 'p' rest
      let (value, inRange) := scaled format negative whole 2 (power - 4 * places)
      some ⟨value, rest, inRange⟩
    | none =>
      (readDigits? 10 body).map fun (whole, places, rest) =>
        let (power, rest) := readExponent 'e' rest
        let (value, inRange) := scaled format negative whole 10 (power - places)
        ⟨value, rest, inRange⟩

def timesPower (whole : Nat) (exponent power : Int) : Nat :=
  let numerator := if 0 ≤ power then whole * Nat.pow 10 power.toNat else whole
  let denominator := if 0 ≤ power then 1 else Nat.pow 10 (-power).toNat
  if 0 ≤ exponent then nearest (numerator <<< exponent.toNat) denominator
  else nearest numerator (denominator <<< (-exponent).toNat)

def withPoint (alternate : Bool) (places value : Nat) : Text :=
  let digits := Nat.toDigits 10 value
  let digits := List.replicate (places + 1 - digits.length) '0' ++ digits
  let before := digits.take (digits.length - places)
  if places = 0 then if alternate then before ++ ['.'] else before
  else before ++ '.' :: digits.drop (digits.length - places)

def exponentText (letter : Char) (least : Nat) (exponent : Int) : Text :=
  let digits := Text.decimal exponent.natAbs
  letter :: (if exponent < 0 then '-' else '+') ::
    (List.replicate (least - digits.length) '0' ++ digits)

/-- The significant digits of a number as one whole number, and the exponent of the first. -/
def significant (whole : Nat) (exponent : Int) (places : Nat) : Nat × Int :=
  if whole = 0 then (0, 0)
  else
    let bits : Int := (bitLength whole : Int) + exponent
    let guess := Int.fdiv (bits * 30103) 100000
    let limit := Nat.pow 10 (places + 1)
    let digitsAt (power : Int) : Nat := timesPower whole exponent (places - power)
    let candidates := [guess - 2, guess - 1, guess, guess + 1, guess + 2]
    match candidates.find? fun power => digitsAt power < limit with
    | some power => (digitsAt power, power)
    | none => (0, 0)

def scientific (alternate : Bool) (places whole : Nat) (exponent : Int) : Text :=
  let (digits, power) := significant whole exponent places
  withPoint alternate places digits ++ exponentText 'e' 2 power

def positional (alternate : Bool) (places whole : Nat) (exponent : Int) : Text :=
  withPoint alternate places (timesPower whole exponent places)

def withoutTrailingZeros (digits : Text) : Text :=
  if digits.contains '.' then
    match digits.reverse.dropWhile (· == '0') with
    | '.' :: rest => rest.reverse
    | rest => rest.reverse
  else digits

def general (alternate : Bool) (precision whole : Nat) (exponent : Int) : Text :=
  let count := max 1 precision
  let (digits, power) := significant whole exponent (count - 1)
  let trim (text : Text) : Text := if alternate then text else withoutTrailingZeros text
  if -4 ≤ power && power < count then
    trim (positional alternate ((count - 1 : Int) - power).toNat whole exponent)
  else trim (withPoint alternate (count - 1) digits) ++ exponentText 'e' 2 power

def hexadecimal (format : BinaryFormat) (field : Field) (whole : Nat) (exponent : Int) : Text :=
  let places := (format.digits - format.leading) / 4
  let short := format.digits - bitLength whole
  let shift := if whole = 0 then 0 else min short (exponent - format.least).toNat
  let whole := whole <<< shift
  let exponent := if whole = 0 then 0 else exponent - shift + 4 * (places : Int)
  let digitsOf (count value : Nat) : Text :=
    let digits := Nat.toDigits 16 value
    List.replicate (count - digits.length) '0' ++ digits
  let one := 1 <<< (4 * places)
  let kept := field.precision.filter (· < places)
  let (lead, fraction, exponent) :=
    match kept with
    | none => (whole / one, digitsOf places (whole % one), exponent)
    | some count =>
      let rounded := nearest whole (1 <<< (4 * (places - count)))
      let lead := rounded / (1 <<< (4 * count))
      let fraction := digitsOf count (rounded % (1 <<< (4 * count)))
      if lead < 16 then (lead, fraction, exponent)
      else if count = 0 then (1, fraction, exponent + 4)
      else (8, fraction, exponent + 1)
  let fraction := if field.precision = some 0 || places = 0 then [] else fraction
  let fraction :=
    match field.precision with
    | none => (fraction.reverse.dropWhile (· == '0')).reverse
    | some count => fraction ++ List.replicate (count - fraction.length) '0'
  Nat.toDigits 16 lead ++ (if fraction.isEmpty && !field.alternate then [] else '.' :: fraction) ++
    exponentText 'p' 1 exponent

def text (format : BinaryFormat) (field : Field) (letter : Char) (value : Floating) : Text :=
  let raise (text : Text) : Text := if letter.isUpper then text.map Char.toUpper else text
  let places := field.precision.getD 6
  match value with
  | .infinite negative => field.pad (field.signOf negative ++ raise "inf".toList)
  | .undefined negative => field.pad (field.signOf negative ++ raise "nan".toList)
  | .finite negative whole exponent =>
    match letter.toLower with
    | 'a' =>
      field.padNumber field.zeros (field.signOf negative ++ raise "0x".toList)
        (raise (hexadecimal format field whole exponent))
    | 'e' =>
      field.padNumber field.zeros (field.signOf negative)
        (raise (scientific field.alternate places whole exponent))
    | 'f' =>
      field.padNumber field.zeros (field.signOf negative)
        (positional field.alternate places whole exponent)
    | _ =>
      field.padNumber field.zeros (field.signOf negative)
        (raise (general field.alternate places whole exponent))

end Floating

end LineScript.Programs
