import LineScript.Programs.Shell.Execution

/-!
# The shell as a program

`sh` carries out a file of statements, a text given with `-c`, or its input. It takes the environment over
into variables and has a few more of its own.
-/

namespace LineScript.Programs.Shell.Program

set_option autoImplicit false

def fixedVariables (number : Nat) : List (String × Text) :=
  [("IFS", standardSeparators), ("OPTIND", ['1']), ("PPID", Text.decimal (number - 1))]

def defaultVariables : List (String × String) :=
  [("PATH", "/usr/local/sbin:/usr/local/bin:/usr/sbin:/usr/bin:/sbin:/bin"), ("PS1", "# "),
    ("PS2", "> "), ("PS4", "+ ")]

/-- The path of the working directory: the one that the environment holds, if it leads there. -/
def startDirectory (files : FileSystem) (environment : Bindings Text Text) : Text :=
  let remembered := (environment.get? "PWD".toList).getD []
  let leadsThere :=
    match files.status (Octets.text remembered) with
    | .ok (location, _) => location == files.workingDirectory
    | .error _ => false
  if Path.isAbsolute remembered && leadsThere then remembered
  else Octets.ofText files.workingDirectory.toPath

def startVariables (files : FileSystem) (process : Process) : Bindings Text Variable :=
  let defaults : Bindings Text Variable := defaultVariables.map fun (name, value) =>
    (name.toList, ⟨some value.toList, false, false⟩)
  let taken := process.environment.filter fun (name, _) => isName name
  let values : Bindings Text Variable :=
    taken.foldl
      (fun values (name, value) => Bindings.insert values name ⟨some value, true, false⟩)
      defaults
  let values : Bindings Text Variable :=
    (fixedVariables process.number).foldl
      (fun values (name, value) =>
        let known? := Bindings.get? values name.toList
        Bindings.insert values name.toList ⟨some value, known?.any (·.exported), false⟩)
      values
  values.insert "PWD".toList ⟨some (startDirectory files process.environment), true, false⟩

def startState (files : FileSystem) (process : Process) : State where
  name := process.name
  builtin? := none
  line := 0
  sourceLine := 1
  status := 0
  kept? := none
  substituted := 0
  arguments := []
  values := startVariables files process
  locals := []
  functions := []
  functionDepth := 0
  aliases := []
  flags := []
  traps := []
  pendingSignals := []
  sentSignals := []
  loops := 0
  optionIndex := 1
  optionPlace := none
  hashed := []
  descriptors := process.descriptors
  traceChannel := none
  tracing := false
  creationMask := process.creationMask
  directory := startDirectory files process.environment
  documents := []
  nextDocument := 0
  number := process.number
  nextNumber := process.number + 1
  jobs := []
  lastJob? := none
  outermost := true
  buffer := []

def endsOfInput : Nat := 50

def runScript (means : Means) (text : Text) : Act Unit := do
  let _ ← means.runText true false false text
  if ← Act.hasFlag 'I' then
    let hint := "\nUse \"exit\" to leave shell.\n".toList
    let _ ← Act.writeDescriptor errorDescriptor (List.replicate endsOfInput hint).flatten

def takeArguments (name : Text) (arguments : List Text) : Act Unit := do
  Act.change fun state => { state with name := name, arguments := arguments }
  Settings.settle

def inputText : Act Text := do
  match (← Act.state).descriptors.get? inputDescriptor with
  | none => return []
  | some number =>
    let world ← get
    match world.workspace.read (fun files channel => channel.readAll files) number with
    | .ok (bytes, workspace) =>
      set { world with workspace := workspace }
      return Octets.ofBytes (bytes.filter (· != 0))
    | .error _ => return []

def run (means : Means) (name : Text) (arguments : List Text) : Act Unit := do
  let taken ← Settings.take true arguments.length false arguments
  let readsInput ← Act.hasFlag 's'
  match taken.runsText, readsInput, taken.rest with
  | true, _, [] => Act.fail ["-c requires an argument".toList]
  | true, _, text :: rest =>
    takeArguments (rest.headD name) rest.tail
    let _ ← means.runText false (!readsInput) false text
    if readsInput then runScript means (← inputText)
  | false, false, path :: rest =>
    let text ← Means.scriptText path
    takeArguments path rest
    runScript means text
  | false, _, rest =>
    Settings.turn true 's'
    takeArguments name rest
    runScript means (← inputText)

def depthLimit : Nat := 100000

def program (launch : Launcher) : Program := fun process workspace =>
  let means : Means := ⟨launch, evaluate launch depthLimit⟩
  let start : World := ⟨startState workspace.files process, workspace⟩
  match means.conclude (run means process.name process.arguments) start with
  | .ok status world => (status, world.workspace)
  | .error _ world => (.exited 2, world.workspace)

end LineScript.Programs.Shell.Program
