import LineScript.Programs.Escape
import LineScript.Programs.Floating
import LineScript.Programs.Shell.State

/-!
# Formatted output of the shell

What `printf` of the shell writes. The format is used again as long as arguments are left. Complaints
about arguments do not stop it; a faulty format does.
-/

namespace LineScript.Programs.Shell.Format

set_option autoImplicit false

structure Progress where
  arguments : List Text
  faulty : Bool

abbrev Step (α : Type) := StateT Progress Act α

def next? : Step (Option Text) := do
  match (← get).arguments with
  | [] => return none
  | argument :: rest =>
    modify fun progress => { progress with arguments := rest }
    return some argument

def complain (parts : List Text) : Step Unit := do
  (Act.complain parts : Act Unit)
  modify fun progress => { progress with faulty := true }

/-- Complains about an argument of which not all was read, or that is out of range. -/
def verify (argument rest : Text) (inRange : Bool) : Step Unit :=
  if !rest.isEmpty then
    complain [argument,
      if rest = argument then "expected numeric value".toList
      else "not completely converted".toList]
  else if !inRange then complain [argument, "Numerical result out of range".toList]
  else pure ()

/-- The number that the next argument spells. After a quote it is the code of a character. -/
def numberOf {α : Type} (zero : α) (ofCode : Nat → α) (read : Text → Option (α × Text × Bool)) :
    Step α := do
  match ← next? with
  | none => return zero
  | some argument =>
    let first := argument.head?
    if first == some '"' || first == some '\'' then
      return ofCode ((argument.tail.head?.map Char.toNat).getD 0)
    else
      match read argument with
      | some (value, rest, inRange) =>
        verify argument rest inRange
        return value
      | none =>
        verify argument argument true
        return zero

def signed : Step Int :=
  numberOf 0 Int.ofNat fun text =>
    (Numeral.read? none text).map fun numeral =>
      (numeral.signed.1, numeral.rest, numeral.signed.2)

def unsigned : Step Nat :=
  numberOf 0 id fun text =>
    (Numeral.read? none text).map fun numeral =>
      (numeral.unsigned.1, numeral.rest, numeral.unsigned.2)

def floating : Step Floating :=
  numberOf (.finite false 0 0) (fun code => .finite false code 0) fun text =>
    (Floating.read? .double text).map fun reading => (reading.value, reading.rest, reading.inRange)

def narrow (value : Int) : Int :=
  let cut := value % 0x100000000
  if cut < 0x80000000 then cut else cut - 0x100000000

def isFlag (c : Char) : Bool := "#-+ 0".toList.contains c

def size (text : Text) : Step (Int × Text) := do
  match text with
  | '*' :: rest => return (narrow (← signed), rest)
  | _ =>
    let (number, rest) := Numeral.decimal text
    return (number, rest)

def readField (text : Text) : Step (Field × Text) := do
  let field := (text.takeWhile isFlag).foldl Field.withFlag .plain
  let (width, rest) ← size (text.dropWhile isFlag)
  let field := field.withWidth width
  match rest with
  | '.' :: rest =>
    let (precision, rest) ← size rest
    return (field.withPrecision precision, rest)
  | rest => return (field, rest)

/-- Writes a directive, whose text begins behind the percent sign. The answer is what follows it, or
nothing if all output ends with it. -/
def directive (text : Text) : Step (Option Text) := do
  let (field, rest) ← readField text
  let print (octets : Text) (rest : Text) : Step (Option Text) := do
    (Act.print octets : Act Unit)
    return some rest
  match rest with
  | [] => Act.fail ["missing format character".toList]
  | letter :: rest =>
    match letter with
    | 'b' =>
      let (octets, ends) := Escapes.basic.expand ((← next?).getD [])
      (Act.print (field.ofText octets) : Act Unit)
      return if ends then none else some rest
    | 'c' => print (field.pad [((← next?).bind List.head?).getD '\x00']) rest
    | 's' => print (field.ofText ((← next?).getD [])) rest
    | 'd' | 'i' => print (field.ofInteger (← signed)) rest
    | 'u' => print ({ field with alternate := false }.ofNatural 10 false (← unsigned)) rest
    | 'o' => print (field.ofNatural 8 false (← unsigned)) rest
    | 'x' => print (field.ofNatural 16 false (← unsigned)) rest
    | 'X' => print (field.ofNatural 16 true (← unsigned)) rest
    | _ =>
      if "aAeEfFgG".toList.contains letter then
        print (Floating.text .double field letter (← floating)) rest
      else
        let written := '%' :: text.take (text.length - rest.length)
        Act.fail [written, "invalid directive".toList]

/-- Goes through the format once. The answer tells whether more output may follow. Each step takes a
character or more. -/
def once : (steps : Nat) → Text → Step Bool
  | 0, _ | _, [] => return true
  | steps + 1, '\\' :: rest => do
    let (octet, taken) := (Escapes.basic.read? rest).getD ('\\', 0)
    (Act.print [octet] : Act Unit)
    once steps (rest.drop taken)
  | steps + 1, '%' :: '%' :: rest => do
    (Act.print ['%'] : Act Unit)
    once steps rest
  | steps + 1, '%' :: rest => do
    match ← directive rest with
    | some rest => once steps rest
    | none => return false
  | steps + 1, c :: rest => do
    (Act.print [c] : Act Unit)
    once steps rest

/-- Goes through the format until no argument is left, or a round has taken none. -/
def rounds (format : Text) : (steps : Nat) → Step Unit
  | 0 => return ()
  | steps + 1 => do
    let before := (← get).arguments.length
    if ← once (format.length + 1) format then
      let left := (← get).arguments.length
      if left ≠ 0 && left ≠ before then rounds format steps

def write (format : Text) (arguments : List Text) : Act Nat := do
  let (_, progress) ← (rounds format (arguments.length + 1)).run ⟨arguments, false⟩
  return if progress.faulty then 1 else 0

end LineScript.Programs.Shell.Format
