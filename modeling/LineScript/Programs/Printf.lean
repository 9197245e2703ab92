import LineScript.Programs.Escape
import LineScript.Programs.Floating
import LineScript.Programs.Quoting
import LineScript.Programs.Running

/-!
# Formatted output

A format is written with its directives replaced by arguments. It is used again while arguments are
left, as long as it takes some; a missing argument counts as empty or as zero. A faulty argument is
complained about and makes the whole fail; a faulty format ends it at once.
-/

namespace LineScript.Programs.Printf

set_option autoImplicit false

structure Progress where
  arguments : List Text
  failed : Bool

abbrev Step (α : Type) := ExceptT ExitStatus (StateT Progress Running) α

namespace Step

def next? : Step (Option Text) := do
  match (← get).arguments with
  | [] => return none
  | argument :: rest =>
    modify fun progress => { progress with arguments := rest }
    return some argument

def fault (parts : List Text) : Step Unit := do
  Running.complain parts
  modify fun progress => { progress with failed := true }

def abort {α : Type} (parts : List Text) : Step α := do
  Running.complain parts
  throw (.exited 1)

end Step

/-- The code of an argument that is a quote and a character, with what follows that. -/
def characterCode? : Text → Option (Nat × Text)
  | quote :: c :: rest => if quote == '"' || quote == '\'' then some (c.toNat, rest) else none
  | _ => none

/-- Complains about a numeric argument of which not all was read, or that is out of range. -/
def verify (argument rest : Text) (inRange : Bool) : Step Unit :=
  let name := Quoting.quoted argument
  if !inRange then Step.fault [name, "Numerical result out of range".toList]
  else if rest.isEmpty then pure ()
  else if rest = argument then Step.fault [name, "expected a numeric value".toList]
  else Step.fault [name, "value not completely converted".toList]

/-- The number that an argument spells, read by a rule that hands back the rest. -/
def numberOf {α : Type} (zero : α) (ofCode : Nat → α) (read : Text → Option (α × Text × Bool))
    (argument : Text) : Step α := do
  match characterCode? argument with
  | some (code, rest) =>
    if !rest.isEmpty then
      Running.complain ["warning".toList, rest,
        "character(s) following character constant have been ignored".toList]
    return ofCode code
  | none =>
    match read argument with
    | some (value, rest, inRange) =>
      verify argument rest inRange
      return value
    | none =>
      verify argument argument true
      return zero

def signedOf (argument : Text) : Step Int :=
  numberOf 0 Int.ofNat
    (fun text => (Numeral.read? none text).map fun numeral =>
      (numeral.signed.1, numeral.rest, numeral.signed.2))
    argument

def unsignedOf (argument : Text) : Step Nat :=
  numberOf 0 id
    (fun text => (Numeral.read? none text).map fun numeral =>
      (numeral.unsigned.1, numeral.rest, numeral.unsigned.2))
    argument

def floatingOf (argument : Text) : Step Floating :=
  numberOf (.finite false 0 0) (fun code => .finite false code 0)
    (fun text => (Floating.read? .extended text).map fun reading =>
      (reading.value, reading.rest, reading.inRange))
    argument

def isFlag (c : Char) : Bool := "-+ #0'I".toList.contains c

def isLength (c : Char) : Bool := "lLhjtz".toList.contains c

def isConversion (flags : Text) (hasPrecision : Bool) (c : Char) : Bool :=
  "aAcdeEfFgGiosuxX".toList.contains c &&
    !((flags.contains '\'' || flags.contains 'I') && "aAceEosxX".toList.contains c) &&
    !(flags.contains '#' && "cdisu".toList.contains c) &&
    !(flags.contains '0' && "cs".toList.contains c) && !(hasPrecision && c == 'c')

def sizeLimit : Int := 0x7fffffff

def sizeOf (least : Int) (wording : String) : Step Int := do
  match ← Step.next? with
  | none => return 0
  | some argument =>
    let size ← signedOf argument
    if size < least || sizeLimit < size then
      Step.abort [wording.toList, Quoting.quoted argument]
    return size

def readSizes (field : Field) (text : Text) : Step (Field × Bool × Text) := do
  let (field, text) ← match text with
    | '*' :: rest => do pure (field.withWidth (← sizeOf (-sizeLimit - 1) "invalid field width"), rest)
    | _ =>
      let (width, rest) := Numeral.decimal text
      pure ({ field with width := width }, rest)
  match text with
  | '.' :: '*' :: rest =>
    return (field.withPrecision (← sizeOf (-Numeral.wordLimit) "invalid precision"), true, rest)
  | '.' :: rest =>
    let (precision, rest) := Numeral.decimal rest
    return ({ field with precision := some precision }, true, rest)
  | rest => return (field, false, rest)

def convert (field : Field) (conversion : Char) : Step Text := do
  let argument := (← Step.next?).getD []
  match conversion with
  | 'd' | 'i' => return field.ofInteger (← signedOf argument)
  | 'u' => return { field with alternate := false }.ofNatural 10 false (← unsignedOf argument)
  | 'o' => return field.ofNatural 8 false (← unsignedOf argument)
  | 'x' => return field.ofNatural 16 false (← unsignedOf argument)
  | 'X' => return field.ofNatural 16 true (← unsignedOf argument)
  | 'c' => return field.pad [argument.headD '\x00']
  | 's' => return field.ofText argument
  | letter => return Floating.text .extended field letter (← floatingOf argument)

def ofCode (code : Nat) : Text :=
  let digits := Nat.toDigits 16 code
  if code < 0x80 then [Char.ofNat code]
  else if code < 0x10000 then "\\u".toList ++ List.replicate (4 - digits.length) '0' ++
    digits.map Char.toUpper
  else "\\U".toList ++ List.replicate (8 - digits.length) '0' ++ digits.map Char.toUpper

def universal (letter : Char) (count : Nat) (text : Text) : Step (Text × Text) := do
  let digits := Numeral.leadingDigits 16 count text
  if digits.length < count then Step.abort ["missing hexadecimal number in escape".toList]
  let code := Numeral.numberOf 16 digits
  if code ≤ 0x9f && !([0x24, 0x40, 0x60].contains code) || 0xd800 ≤ code && code ≤ 0xdfff then
    Step.abort ["invalid universal character name \\".toList ++
      letter :: (text.take count).map Char.toLower]
  return (ofCode code, text.drop count)

/-- The octets of the escape that the text after a backslash begins with, and what follows it. -/
def escape (inArgument : Bool) (text : Text) : Step (Text × Text) := do
  match text with
  | 'c' :: _ => throw (.exited 0)
  | 'u' :: rest => universal 'u' 4 rest
  | 'U' :: rest => universal 'U' 8 rest
  | '"' :: rest => return (['"'], rest)
  | 'x' :: rest =>
    match Escapes.numeric? 16 2 rest with
    | some (octet, taken) => return ([octet], rest.drop taken)
    | none => Step.abort ["missing hexadecimal number in escape".toList]
  | _ =>
    let found :=
      if inArgument then Escapes.extended.readInArgument? text else Escapes.extended.read? text
    match found, text with
    | some (octet, taken), _ => return ([octet], text.drop taken)
    | none, [] => return (['\\'], [])
    | none, c :: rest => return (['\\', c], rest)

def writeArgument : (steps : Nat) → Text → Step Unit
  | 0, _ | _, [] => pure ()
  | steps + 1, '\\' :: rest => do
    let (octets, rest) ← escape true rest
    Running.print octets
    writeArgument steps rest
  | steps + 1, c :: rest => do
    Running.print [c]
    writeArgument steps rest

/-- Writes what a directive after its percent sign stands for, and hands back what follows it. -/
def directive (text : Text) : Step Text := do
  match text with
  | '%' :: rest =>
    Running.print ['%']
    return rest
  | 'b' :: rest =>
    if let some argument ← Step.next? then writeArgument argument.length argument
    return rest
  | 'q' :: rest =>
    if let some argument ← Step.next? then Running.print (Quoting.quotedIfNeeded argument)
    return rest
  | _ =>
    let flags := text.takeWhile isFlag
    let (field, hasPrecision, rest) ←
      readSizes (flags.foldl Field.withFlag Field.plain) (text.dropWhile isFlag)
    match rest.dropWhile isLength with
    | [] => Step.abort ['%' :: text, "invalid conversion specification".toList]
    | conversion :: rest =>
      if !isConversion flags hasPrecision conversion then
        Step.abort ['%' :: text.take (text.length - rest.length),
          "invalid conversion specification".toList]
      Running.print (← convert field conversion)
      return rest

def writeFormat : (steps : Nat) → Text → Step Unit
  | 0, _ | _, [] => pure ()
  | steps + 1, '%' :: rest => do writeFormat steps (← directive rest)
  | steps + 1, '\\' :: rest => do
    let (octets, rest) ← escape false rest
    Running.print octets
    writeFormat steps rest
  | steps + 1, c :: rest => do
    Running.print [c]
    writeFormat steps rest

def writeAll (format : Text) : (rounds : Nat) → Step Unit
  | 0 => pure ()
  | rounds + 1 => do
    let before := (← get).arguments.length
    writeFormat format.length format
    match (← get).arguments with
    | [] => pure ()
    | argument :: rest =>
      if rest.length + 1 < before then writeAll format rounds
      else
        Running.complain ["warning".toList,
          "ignoring excess arguments, starting with ".toList ++ Quoting.quoted argument]

def withoutMark : List Text → List Text
  | ['-', '-'] :: rest => rest
  | arguments => arguments

def program : Program := do
  match withoutMark (← read).arguments with
  | [] =>
    Running.complainOfUse "missing operand".toList
    return .exited 1
  | format :: arguments =>
    let (result, progress) ← ((writeAll format (arguments.length + 1)).run).run ⟨arguments, false⟩
    let status := match result with
      | .ok () => .exited (if progress.failed then 1 else 0)
      | .error status => status
    Running.finish 1 status

end LineScript.Programs.Printf
