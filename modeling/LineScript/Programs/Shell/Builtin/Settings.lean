import LineScript.Programs.Shell.Builtin.Variables

/-!
# Settings of the shell

`set`, `umask` and `ulimit`. The options of a shell are letters after a dash or a plus sign, or names after
`-o`; a shell takes the same options when it is started.
-/

namespace LineScript.Programs.Shell.Settings

set_option autoImplicit false

def namedOptions : List (Char × String) :=
  optionNames ++ [('\x01', "nolog"), ('\x02', "debug")]

def turn (on : Bool) (letter : Char) : Act Unit :=
  Act.change fun state =>
    let others := state.flags.filter (· != letter)
    { state with flags := if on then letter :: others else others }

/-- Sets the option with a letter or takes it back. There is one style of editing at most. -/
def turnLetter (on : Bool) (letter : Char) : Act Unit :=
  if (optionNames.lookup letter).isSome then do
    turn on letter
    if on && letter == 'V' then turn false 'E'
    if on && letter == 'E' then turn false 'V'
  else Act.fail ["Illegal option -".toList ++ [letter]]

def list (asCommands : Bool) : Act Unit := do
  if !asCommands then Act.printLine "Current option settings".toList
  namedOptions.forM fun (letter, name) => do
    let on ← Act.hasFlag letter
    if asCommands then Act.printLine ((if on then "set -o " else "set +o ").toList ++ name.toList)
    else
      let columns := List.replicate (16 - name.length) ' '
      Act.printLine (name.toList ++ columns ++ (if on then "on" else "off").toList)

def turnName (on : Bool) (name : Text) : Act Unit :=
  match namedOptions.find? (·.2.toList == name) with
  | some (letter, _) => turn on letter
  | none => Act.fail ["Illegal option -o ".toList ++ name]

/-- How options end: with the arguments after them, whether those replace all arguments even if there are
none, and whether a text was asked for as the script. -/
structure Taken where
  rest : List Text
  replaces : Bool
  runsText : Bool

/-- Sets the options of a cluster of letters. Names are taken from the arguments that follow. -/
def takeLetters (atStart on : Bool) (runsText : Bool) (rest : List Text) : Text → Act Taken
  | [] => return ⟨rest, false, runsText⟩
  | letter :: letters => do
    if letter == 'c' && atStart then takeLetters atStart on true rest letters
    else if letter == 'l' && atStart then takeLetters atStart on runsText rest letters
    else if letter == 'o' then
      match rest with
      | name :: rest =>
        turnName on name
        takeLetters atStart on runsText rest letters
      | [] =>
        list (!on)
        takeLetters atStart on runsText rest letters
    else
      turnLetter on letter
      takeLetters atStart on runsText rest letters

def take (atStart : Bool) : (steps : Nat) → (runsText : Bool) → List Text → Act Taken
  | 0, runsText, arguments => return ⟨arguments, false, runsText⟩
  | steps + 1, runsText, arguments => do
    match arguments with
    | ['-'] :: rest =>
      if !atStart then
        turn false 'x'
        turn false 'v'
      return ⟨rest, false, runsText⟩
    | ['-', '-'] :: rest => return ⟨rest, true, runsText⟩
    | ('-' :: letters) :: rest =>
      let taken ← takeLetters atStart true runsText rest letters
      take atStart steps taken.runsText taken.rest
    | ('+' :: letters) :: rest =>
      let taken ← takeLetters atStart false runsText rest letters
      take atStart steps taken.runsText taken.rest
    | _ => return ⟨arguments, false, runsText⟩

def settle : Act Unit := do
  if ← Act.hasFlag 'm' then
    Act.complain ["can't access tty; job control turned off".toList]
    turn false 'm'

def set (arguments : List Text) : Act Nat := do
  if arguments.isEmpty then Variables.listAll
  else
    let taken ← take false arguments.length false arguments
    settle
    if taken.replaces || !taken.rest.isEmpty then
      Act.change fun state =>
        { state with arguments := taken.rest, optionIndex := 1, optionPlace := none }
  return 0

def classBits : Char → Option Mode
  | 'u' => some 0o700
  | 'g' => some 0o070
  | 'o' => some 0o007
  | 'a' => some 0o777
  | _ => none

def spread (bits : Mode) : Mode := bits ||| bits <<< 3 ||| bits <<< 6

/-- What a permission letter of a symbolic mode stands for, given the bits that are set. -/
def permissionBits (mode : Mode) : Char → Option Mode
  | 'r' => some 0o444
  | 'w' => some 0o222
  | 'x' => some 0o111
  | 'X' => some (if mode &&& 0o111 ≠ 0 then 0o111 else 0)
  | 's' => some 0
  | 'u' => some (spread (mode >>> 6 &&& 7))
  | 'g' => some (spread (mode >>> 3 &&& 7))
  | 'o' => some (spread (mode &&& 7))
  | _ => none

/-- Applies the operations of one clause to a mode. Each step takes an operation. -/
def applyOperations (who : Mode) : (steps : Nat) → (mode : Mode) → Text → Option (Mode × Text)
  | steps + 1, mode, operator :: rest =>
    if operator == '+' || operator == '-' || operator == '=' then
      let letters := rest.takeWhile fun c => (permissionBits mode c).isSome
      let bits := (letters.filterMap (permissionBits mode)).foldl (· ||| ·) 0 &&& who
      let mode :=
        if operator == '+' then mode ||| bits
        else if operator == '-' then mode &&& (0o777 ^^^ bits)
        else mode &&& (0o777 ^^^ who) ||| bits
      applyOperations who steps mode (rest.drop letters.length)
    else some (mode, operator :: rest)
  | _, mode, rest => some (mode, rest)

/-- Applies a symbolic mode to a mode: clauses between commas, each of classes and operations. Each step
takes a clause. -/
def applySymbolic : (steps : Nat) → (mode : Mode) → Text → Option Mode
  | 0, _, _ => none
  | _ + 1, mode, [] => some mode
  | steps + 1, mode, text =>
    let classes := text.takeWhile fun c => (classBits c).isSome
    let given := (classes.filterMap classBits).foldl (· ||| ·) 0
    let who := if classes.isEmpty then 0o777 else given
    let body := text.drop classes.length
    match applyOperations who body.length mode body with
    | some (mode, rest) =>
      if rest.length = body.length then none
      else
        match rest with
        | [] => some mode
        | ',' :: rest => applySymbolic steps mode rest
        | _ => none
    | none => none

def symbolic (mode : Mode) : Text :=
  Text.join [','] ([('u', 6), ('g', 3), ('o', 0)].map fun (letter, shift) =>
    letter :: '=' :: [('r', 4), ('w', 2), ('x', 1)].filterMap fun (permission, bit) =>
      if mode >>> shift &&& bit ≠ 0 then some permission else none)

def umask (arguments : List Text) : Act Nat := do
  let (options, operands) ← Builtin.options "S" "" arguments
  let mask := (← Act.state).creationMask
  match operands with
  | [] =>
    if options.isEmpty then
      let digits := Nat.toDigits 8 mask
      Act.printLine (List.replicate (4 - digits.length) '0' ++ digits)
    else Act.printLine (symbolic (0o777 ^^^ mask))
  | wanted :: _ =>
    if wanted.head?.any Char.isDigit then
      if wanted.all fun c => '0' ≤ c && c ≤ '7' then
        let number := Numeral.numberOf 8 (Numeral.leadingDigits 8 wanted.length wanted)
        Act.change fun state => { state with creationMask := number &&& 0o777 }
      else Act.fail ["Illegal number".toList, arguments.headD []]
    else
      match applySymbolic (wanted.length + 1) (0o777 ^^^ mask) wanted with
      | some mode => Act.change fun state => { state with creationMask := 0o777 ^^^ mode }
      | none => Act.fail ["Illegal mode".toList, wanted]
  return 0

def ulimit (arguments : List Text) : Act Nat := do
  let (options, operands) ← Builtin.options "HSatfdscmlpnvwr" "" arguments
  if operands.isEmpty && !options.any (·.1 == 'a') then Act.printLine "unlimited".toList
  return 0

end LineScript.Programs.Shell.Settings
