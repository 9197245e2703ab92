import LineScript.Programs.Shell.Builtin

/-!
# Commands on variables

`export`, `readonly`, `local` and `unset`. A variable can be marked before it has a value, and a local one
keeps the value it has outside until it is given another.
-/

namespace LineScript.Programs.Shell.Variables

set_option autoImplicit false

def declared (argument : Text) : Text × Option Text :=
  (argument.takeWhile (· != '='), (argument.dropWhile (· != '=')).tail?)

def checkName (name : Text) : Act Unit :=
  if isName name then pure () else Act.fail [name, "bad variable name".toList]

def sorted : Act (List (Text × Variable)) := do
  return (← Act.state).values.mergeSort fun first second => Text.le first.1 second.1

def list (word : Text) (wanted : Variable → Bool) : Act Unit := do
  (← sorted).forM fun (name, known) => do
    if wanted known then
      let value := match known.value? with
        | some value => '=' :: Builtin.singleQuoted value
        | none => []
      Act.printLine (word ++ name ++ value)

def listAll : Act Unit := list [] fun known => known.value?.isSome

/-- Marks variables and gives values to some of them, or lists those that are marked. -/
def declare (word : String) (isMarked : Variable → Bool) (mark : Variable → Variable)
    (arguments : List Text) : Act Nat := do
  let lists := arguments.head?.any ("-p".toList.isPrefixOf ·)
  let (_, operands) ← if lists then pure ([], []) else Builtin.options "" "" arguments
  if operands.isEmpty then list (word.toList ++ [' ']) isMarked
  else
    operands.forM fun operand => do
      let (name, value?) := declared operand
      match ← Act.lookUp? name, value? with
      | some known, none =>
        Act.change fun state => { state with values := state.values.insert name (mark known) }
      | _, _ =>
        checkName name
        Act.bindVariable name fun known? =>
          mark { known?.getD ⟨none, false, false⟩ with value? := value? }
  return 0

def declareExported : List Text → Act Nat :=
  declare "export" (·.exported) fun known => { known with exported := true }

def declareReadonly : List Text → Act Nat :=
  declare "readonly" (·.readonly) fun known => { known with readonly := true }

def localize (exports : Bool) (name : Text) (value? : Option Text) : Act Unit := do
  let known? ← Act.lookUp? name
  Act.saveVariable name
  match known?, value? with
  | some _, none => return ()
  | none, none =>
    checkName name
    Act.bindVariable name fun _ => ⟨none, exports, false⟩
  | _, some value =>
    Act.bindVariable name fun known? => ⟨some value, exports || known?.any (·.exported), false⟩

def localizeFlags : Act Unit :=
  Act.change fun state =>
    match state.locals with
    | frame :: others =>
      let saved := (Act.flagsName, some ⟨some state.flags, false, false⟩)
      { state with locals := (saved :: frame) :: others }
    | [] => state

def declareLocal (arguments : List Text) : Act Nat := do
  if (← Act.state).locals.isEmpty then Act.fail ["not in a function".toList]
  else
    arguments.forM fun argument =>
      if argument = Act.flagsName then localizeFlags
      else
        let (name, value?) := declared argument
        localize false name value?
    return 0

def unset (arguments : List Text) : Act Nat := do
  let (options, operands) ← Builtin.options "vf" "" arguments
  let functions := options.getLast?.any (·.1 == 'f')
  operands.forM fun operand =>
    if functions then
      Act.change fun state => { state with functions := state.functions.erase operand }
    else Act.unsetVariable (declared operand).1
  return 0

end LineScript.Programs.Shell.Variables
