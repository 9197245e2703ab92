import LineScript.Programs.Numeral

/-!
# Backslash escapes

A backslash followed by a letter, a backslash or up to three octal digits stands for one octet. In an
argument the octal digits may have a zero before them, and `\c` ends all output. A backslash that
begins no escape stands for itself.
-/

namespace LineScript.Programs

set_option autoImplicit false

inductive Escapes where
  | basic
  | extended
  deriving DecidableEq

namespace Escapes

def letters : List (Char × Char) :=
  [('a', '\x07'), ('b', '\x08'), ('t', '\t'), ('n', '\n'), ('v', '\x0b'), ('f', '\x0c'),
    ('r', '\r'), ('e', '\x1b'), ('\\', '\\')]

def octet (code : Nat) : Char := Char.ofNat (code % 0x100)

/-- The octet that the digits at the start denote, with the number of characters they take. -/
def numeric? (base most : Nat) (text : Text) : Option (Char × Nat) :=
  match Numeral.leadingDigits base most text with
  | [] => none
  | digits => some (octet (Numeral.numberOf base digits), digits.length)

/-- The octet that the text after a backslash begins with, and the number of characters it takes. -/
def read? (escapes : Escapes) : Text → Option (Char × Nat)
  | [] => none
  | c :: rest =>
    match letters.lookup c, escapes, c with
    | some octet, _, _ => some (octet, 1)
    | none, .extended, 'x' => (numeric? 16 2 rest).map fun (octet, taken) => (octet, taken + 1)
    | none, _, _ => numeric? 8 3 (c :: rest)

def readInArgument? (escapes : Escapes) : Text → Option (Char × Nat)
  | '0' :: rest =>
    some (((numeric? 8 3 rest).map fun (octet, taken) => (octet, taken + 1)).getD ('\x00', 1))
  | text => escapes.read? text

def expand (escapes : Escapes) : Text → Text × Bool
  | [] => ([], false)
  | c :: rest =>
    if c = '\\' then
      if rest.head? = some 'c' then ([], true)
      else
        let (octet, taken) := (escapes.readInArgument? rest).getD ('\\', 0)
        let (octets, ends) := escapes.expand (rest.drop taken)
        (octet :: octets, ends)
    else
      let (octets, ends) := escapes.expand rest
      (c :: octets, ends)
termination_by text => text.length
decreasing_by
  all_goals simp only [List.length_drop, List.length_cons]; omega

end Escapes

end LineScript.Programs
