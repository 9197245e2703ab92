import LineScript.Programs.Numeral
import LineScript.Programs.Running
import LineScript.Programs.Shell.Source

/-!
# The state of a shell

What a shell remembers between its commands: variables, functions, aliases, traps, options, arguments,
where its descriptors lead, and how the last command ended. A command that a shell runs in a shell of its
own works on a copy.
-/

namespace LineScript.Programs.Shell

set_option autoImplicit false

structure Variable where
  value? : Option Text
  exported : Bool
  readonly : Bool
  deriving DecidableEq

/-- A command in the background: its process, how it ended, and whether it was waited for. -/
structure Job where
  process : Nat
  status : ExitStatus
  awaited : Bool
  deriving DecidableEq

/-- What a shell remembers. `line` is that of the command being carried out and `sourceLine` the one up to
which the script was read. `substituted` is how the last command whose output went into a word ended,
`kept?` how the command before a trap ended, and `outermost` holds for the shell that was started as a
program of its own; a shell inside of it gathers the signals sent to that one. Options are read from the
argument at `optionIndex`, there at `optionPlace`. The trace of commands is written to `traceChannel`.
Programs that were found before are `hashed`, with whether they have to be looked for once more. -/
structure State where
  name : Text
  builtin? : Option Text
  line : Nat
  sourceLine : Nat
  status : Nat
  kept? : Option Nat
  substituted : Nat
  arguments : List Text
  values : Bindings Text Variable
  locals : List (List (Text × Option Variable))
  functions : Bindings Text Statement
  functionDepth : Nat
  aliases : Bindings Text Text
  flags : Text
  traps : Bindings Nat Text
  pendingSignals : List Nat
  sentSignals : List Nat
  loops : Nat
  optionIndex : Nat
  optionPlace : Option Nat
  hashed : Bindings Text Bool
  descriptors : Bindings Nat Nat
  traceChannel : Option Nat
  tracing : Bool
  creationMask : Mode
  directory : Text
  documents : Bindings Nat Word
  nextDocument : Nat
  number : Nat
  nextNumber : Nat
  jobs : List (Nat × Job)
  lastJob? : Option Nat
  outermost : Bool
  buffer : List Text

structure World where
  state : State
  workspace : Workspace

/-- Why a shell leaves what it is doing before its end: an error, the end of the shell, a way out of a
function or a file, perhaps with a status of its own, a way out of loops or to their next rounds, or a
signal. -/
inductive Interruption where
  | failed
  | ended (byCommand : Bool)
  | returned (withStatus : Bool)
  | left (again : Bool) (levels : Nat)
  | killed (signal : Nat)
  deriving DecidableEq

abbrev Act (α : Type) := EStateM Interruption World α

namespace Act

variable {α : Type}

def change (update : State → State) : Act Unit :=
  modify fun world => { world with state := update world.state }

def state : Act State := return (← get).state

def ask (question : FileSystem → α) : Act α := return question (← get).workspace.files

def always (first : Act α) (last : Act Unit) : Act α := fun world =>
  match first world with
  | .ok result world =>
    match last world with
    | .ok _ world => .ok result world
    | .error interruption world => .error interruption world
  | .error interruption world =>
    match last world with
    | .ok _ world => .error interruption world
    | .error interruption world => .error interruption world

def attempt (step : Act α) : Act (Except Interruption α) := fun world =>
  match step world with
  | .ok result world => .ok (.ok result) world
  | .error interruption world => .ok (.error interruption) world

def writeChannel (number : Nat) (octets : Text) : Act (Except HostError Unit) := do
  let world ← get
  match world.workspace.write number (Octets.bytes octets) with
  | .ok workspace =>
    set { world with workspace := workspace }
    return .ok ()
  | .error error => return .error error

def writeDescriptor (descriptor : Nat) (octets : Text) : Act (Except HostError Unit) := do
  match (← state).descriptors.get? descriptor with
  | none => return .error .badDescriptor
  | some number => writeChannel number octets

def print (octets : Text) : Act Unit :=
  change fun state => { state with buffer := octets :: state.buffer }

def printLine (octets : Text) : Act Unit := print (octets ++ ['\n'])

/-- Writes the output that was gathered. The answer tells whether all of it could be written. -/
def flush : Act Bool := do
  let octets := (← state).buffer.reverse.flatten
  change fun state => { state with buffer := [] }
  if octets.isEmpty then return true
  else
    match ← writeDescriptor outputDescriptor octets with
    | .ok () => return true
    | .error _ => return false

/-- Writes a complaint: the name of the shell, the line, the built-in command that is running, and the
parts of the complaint. -/
def complain (parts : List Text) : Act Unit := do
  let state ← state
  let context := state.name :: Text.decimal state.line :: state.builtin?.toList
  let _ ← writeDescriptor errorDescriptor (Text.join ": ".toList (context ++ parts) ++ ['\n'])

def setStatus (status : Nat) : Act Unit := change fun state => { state with status := status }

def fail (parts : List Text) : Act α := do
  complain parts
  let _ ← flush
  setStatus 2
  throw .failed

def hasFlag (letter : Char) : Act Bool := return (← state).flags.contains letter

def lookUp? (name : Text) : Act (Option Variable) := return (← state).values.get? name

def valueOf? (name : Text) : Act (Option Text) := return (← lookUp? name).bind (·.value?)

/-- The number that a text spells, if that is none below zero and not too large. -/
def naturalOf (text : Text) : Act Nat := do
  match Numeral.read? (some 10) text with
  | some ⟨false, number, rest⟩ =>
    if rest.all Numeral.isBlank && number ≤ 0x7fffffff then return number
    else fail ["Illegal number".toList, text]
  | _ => fail ["Illegal number".toList, text]

def restartOptions (written : Text) : Act Unit := do
  let index ← if written.isEmpty then pure 1 else naturalOf written
  change fun state => { state with optionIndex := max 1 index, optionPlace := none }

def bindVariable (name : Text) (update : Option Variable → Variable) : Act Unit := do
  let known? ← lookUp? name
  if known?.any (·.readonly) then fail [name, "is read only".toList]
  else
    let exports ← hasFlag 'a'
    let updated := update known?
    change fun state =>
      { state with
        values :=
          state.values.insert name { updated with exported := updated.exported || exports } }
    if name = "OPTIND".toList then restartOptions (updated.value?.getD [])
    if name = "PATH".toList then change fun state => { state with hashed := [] }

def setVariable (name value : Text) : Act Unit :=
  bindVariable name fun
    | some known => { known with value? := some value }
    | none => ⟨some value, false, false⟩

def setNamed (name value : Text) : Act Unit :=
  if isName name then setVariable name value else fail [name, "bad variable name".toList]

/-- Variables of which the shell remembers whether they are exported when they are taken away. -/
def lastingNames : List String :=
  ["IFS", "MAIL", "MAILPATH", "OPTIND", "PATH", "PS1", "PS2", "PS4", "TERM"]

/-- Takes a variable away. A local one, and one that lasts, only loses its value. -/
def unsetVariable (name : Text) : Act Unit := do
  match ← lookUp? name with
  | none => if !isName name then fail [name, "bad variable name".toList]
  | some known =>
    if known.readonly then fail [name, "is read only".toList]
    else
      change fun state =>
        let lasts := lastingNames.contains (Text.toString name) ||
          state.locals.any fun frame => frame.any (·.1 == name)
        { state with
          values :=
            if lasts then state.values.insert name { known with value? := none }
            else state.values.erase name }
      if name = "OPTIND".toList then restartOptions []
      if name = "PATH".toList then change fun state => { state with hashed := [] }

/-- Remembers what a variable is, so that it can be restored when the innermost frame of local variables
goes away. -/
def saveVariable (name : Text) : Act Unit :=
  change fun state =>
    match state.locals with
    | frame :: others =>
      if frame.any (·.1 == name) then state
      else { state with locals := ((name, state.values.get? name) :: frame) :: others }
    | [] => state

def pushLocals : Act Unit := change fun state => { state with locals := [] :: state.locals }

def flagsName : Text := ['-']

def restored (state : State) (frame : List (Text × Option Variable)) : State :=
  frame.foldl
    (fun state (name, saved?) =>
      if name = flagsName then { state with flags := (saved?.bind (·.value?)).getD [] }
      else
        match saved? with
        | some known => { state with values := state.values.insert name known }
        | none => { state with values := state.values.erase name })
    state

/-- Takes the innermost frames of local variables away and restores what they remember, until no more
than some are left. -/
def popLocals (left : Nat) : Act Unit := do
  let frames := (← state).locals
  let popped := frames.take (frames.length - left)
  change fun state =>
    popped.foldl restored { state with locals := state.locals.drop (frames.length - left) }
  let concerns (name : String) : Bool :=
    popped.any fun frame => frame.any (·.1 == name.toList)
  if concerns "OPTIND" then restartOptions ((← valueOf? "OPTIND".toList).getD [])
  if concerns "PATH" then change fun state => { state with hashed := [] }

/-- Does something with a frame of local variables. It stays when the shell is left on the way. -/
def withLocals (step : Act α) : Act α := do
  let left := (← state).locals.length
  pushLocals
  match ← attempt step with
  | .ok result =>
    popLocals left
    return result
  | .error (.returned withStatus) =>
    popLocals left
    throw (.returned withStatus)
  | .error (.left again levels) =>
    popLocals left
    throw (.left again levels)
  | .error interruption => throw interruption

def environment : Act (Bindings Text Text) := do
  return (← state).values.filterMap fun (name, known) =>
    match known with
    | ⟨some value, true, _⟩ => some (name, value)
    | _ => none

def freshNumber : Act Nat := do
  let number := (← state).nextNumber
  change fun state => { state with nextNumber := number + 1 }
  return number

def codeOf : ExitStatus → Nat
  | .exited code => code
  | .killed signal => 128 + signal

def addChannel (channel : Channel) : Act Nat :=
  modifyGet fun world =>
    let (number, workspace) := world.workspace.addChannel channel
    (number, { world with workspace := workspace })

def drain (number : Nat) : Act (List UInt8) :=
  modifyGet fun world =>
    (world.workspace.collected number,
      { world with
        workspace := { world.workspace with
          channels := world.workspace.channels.erase number } })

end Act

end LineScript.Programs.Shell
