import LineScript.Programs.Shell.Lookup

/-!
# Commands on names

`alias` and `unalias`, `hash`, and the questions of `type` and `command` what a name stands for.
-/

namespace LineScript.Programs.Shell.Names

set_option autoImplicit false

/-- The place of a name in a listing: names are spread over classes by the sum of their octets. -/
def spreadOver (classes : Nat) (name : Text) : Nat :=
  (name.foldl (fun sum c => sum + c.toNat) ((name.headD '\x00').toNat * 16)) % classes

/-- Bindings in the order of a listing: class by class, within one in the order they were made. -/
def listed {α : Type} (classes : Nat) (bindings : Bindings Text α) : Bindings Text α :=
  (List.range classes).flatMap fun index =>
    bindings.filter fun (name, _) => spreadOver classes name == index

def aliasClasses : Nat := 39

def programClasses : Nat := 31

def showAlias (name value : Text) : Act Unit := Act.printLine (Lookup.aliasText name value)

def refuseAlias (command : String) (name : Text) : Act Unit := do
  let _ ← Act.writeDescriptor errorDescriptor
    (command.toList ++ ": ".toList ++ name ++ " not found\n".toList)

def define (name value : Text) : Act Unit :=
  Act.change fun state =>
    { state with
      aliases :=
        if (state.aliases.get? name).isSome then
          state.aliases.map fun (known, old) => (known, if known = name then value else old)
        else state.aliases ++ [(name, value)] }

/-- The name and the value of a definition. An equals sign at the start belongs to the name. -/
def definition? (argument : Text) : Option (Text × Text) :=
  match argument.tail.dropWhile (· != '=') with
  | _ :: value => some (argument.take (argument.length - value.length - 1), value)
  | [] => none

def forAll (arguments : List Text) (step : Text → Act Bool) : Act Nat := do
  return if (← arguments.mapM step).all id then 0 else 1

def aliases (arguments : List Text) : Act Nat := do
  if arguments.isEmpty then
    (listed aliasClasses (← Act.state).aliases).forM fun (name, value) => showAlias name value
  forAll arguments fun argument => do
    match definition? argument with
    | some (name, value) =>
      define name value
      return true
    | none =>
      match (← Act.state).aliases.get? argument with
      | some value =>
        showAlias argument value
        return true
      | none =>
        refuseAlias "alias" argument
        return false

def unalias (arguments : List Text) : Act Nat := do
  let (options, operands) ← Builtin.options "a" "" arguments
  if !options.isEmpty then
    Act.change fun state => { state with aliases := [] }
    return 0
  else
    forAll operands fun name => do
      if ((← Act.state).aliases.get? name).isSome then
        Act.change fun state => { state with aliases := state.aliases.erase name }
        return true
      else
        refuseAlias "unalias" name
        return false

/-- Shows a program that was found, with a mark if it has to be looked for once more. -/
def showProgram (name : Text) (stale : Bool) : Act Unit := do
  let candidates := Lookup.candidates (← Lookup.searchPath) name
  let path ← Act.ask fun files =>
    candidates.find? fun path =>
      match files.status (Octets.text path) with
      | .ok (_, .file _ _) => true
      | _ => false
  Act.printLine (path.getD name ++ if stale then ['*'] else [])

def hash (arguments : List Text) : Act Nat := do
  let (options, operands) ← Builtin.options "r" "" arguments
  if !options.isEmpty then
    Act.change fun state => { state with hashed := [] }
    return 0
  else
    if operands.isEmpty then
      (listed programClasses (← Act.state).hashed).forM fun (name, stale) => showProgram name stale
    forAll operands fun name => do
      Act.change fun state => { state with hashed := state.hashed.erase name }
      match ← Lookup.find (← Lookup.searchPath) name with
      | .missing error =>
        Act.complain [name, Lookup.refusal error]
        return false
      | _ => return true

def type (arguments : List Text) : Act Nat := do
  let statuses ← arguments.mapM (Lookup.describe none true)
  return statuses.foldl (· ||| ·) 0

def command (arguments : List Text) : Act Nat := do
  let (options, operands) ← Builtin.options "pvV" "" arguments
  let asks (letter : Char) : Bool := options.any (·.1 == letter)
  match operands with
  | name :: _ =>
    if asks 'v' || asks 'V' then
      Lookup.describe (if asks 'p' then some Lookup.standardPath else none) (asks 'V') name
    else return 0
  | [] => return 0

end LineScript.Programs.Shell.Names
