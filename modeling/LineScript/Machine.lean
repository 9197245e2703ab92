import LineScript.Event
import LineScript.Fault
import LineScript.FileSystem.Calls

/-!
# Machines and actions

A machine is everything a run acts on: the session, the file system, the room that is left in the
output, and the transcript of what has happened. The transcript interleaves trace events, output and
the requests made to the host, so the trace, the output and the use of the host are three views of
one list. An action changes a machine and yields a value or stops with a fault; what it did before
the fault stays done.
-/

namespace LineScript

set_option autoImplicit false

/-- A request to the host, with the paths it was made with. -/
inductive Call where
  | linkStatus (path : Path)
  | status (path : Path)
  | canonical (path : Path)
  | list (path : Path)
  | readText (path : Path)
  | createFile (path : Path)
  | makeDirectory (path : Path)
  | write (path : Path)
  | append (path : Path)
  | copyFile (source destination : Path)
  | removeFile (path : Path)
  | removeTree (path : Path)
  | rename (source destination : Path)
  | launch (request : Launch)
  deriving DecidableEq

namespace Call

/-- The paths that a request names. A process is started in the directory it names. -/
def paths : Call → List Path
  | .linkStatus path | .status path | .canonical path | .list path | .readText path
  | .createFile path | .makeDirectory path | .write path | .append path
  | .removeFile path | .removeTree path => [path]
  | .copyFile source destination | .rename source destination => [source, destination]
  | .launch request => [request.directory]

def isLaunch : Call → Bool
  | .launch _ => true
  | _ => false

def isChange : Call → Bool
  | .linkStatus _ | .status _ | .canonical _ | .list _ | .readText _ => false
  | _ => true

end Call

inductive Entry where
  | event (event : Event)
  | output (bytes : List UInt8)
  | call (call : Call)
  deriving DecidableEq

abbrev Transcript := List Entry

namespace Transcript

def output (transcript : Transcript) : List UInt8 :=
  transcript.flatMap fun
    | .output bytes => bytes
    | _ => []

def events (transcript : Transcript) : List Event :=
  transcript.filterMap fun
    | .event event => some event
    | _ => none

def calls (transcript : Transcript) : List Call :=
  transcript.filterMap fun
    | .call call => some call
    | _ => none

def launches (transcript : Transcript) : Nat := (calls transcript).countP Call.isLaunch

/-- The output with every event as a line of its own at the place where it was reported. -/
def verbose (transcript : Transcript) : List UInt8 :=
  transcript.flatMap fun
    | .output bytes => bytes
    | .event event => Utf8.encode event.line
    | .call _ => []

@[simp] theorem events_append (first second : Transcript) :
    events (first ++ second) = events first ++ events second := by
  simp [events]

@[simp] theorem calls_append (first second : Transcript) :
    calls (first ++ second) = calls first ++ calls second := by
  simp [calls]

@[simp] theorem launches_append (first second : Transcript) :
    launches (first ++ second) = launches first + launches second := by
  simp [launches]

end Transcript

/-- Everything that a run acts on. `room` is the number of bytes the output still takes; an output
without a limit has none. -/
structure Machine where
  session : Session
  files : FileSystem
  room : Option Nat
  transcript : Transcript

namespace Machine

def start (session : Session) (files : FileSystem) (room : Option Nat) : Machine :=
  ⟨session, files, room, []⟩

def record (machine : Machine) (entry : Entry) : Machine :=
  { machine with transcript := machine.transcript ++ [entry] }

def output (machine : Machine) : List UInt8 := machine.transcript.output

end Machine

/-- A step of a run: a value or a fault, and the machine after it. -/
abbrev Action (α : Type) := ExceptT RunFault (StateM Machine) α

namespace Action

variable {α : Type}

def session : Action Session := return (← get).session

def files : Action FileSystem := return (← get).files

def launches : Action Nat := return (← get).transcript.launches

def updateSession (update : Session → Session) : Action Unit :=
  modify fun machine => { machine with session := update machine.session }

def report (event : Event) : Action Unit := modify (·.record (.event event))

/-- Writes bytes to the output. Bytes that fit are kept; the first byte that does not is a fault. -/
def writeBytes (bytes : List UInt8) : Action Unit := do
  match (← get).room with
  | none => modify (·.record (.output bytes))
  | some room =>
    modify fun machine =>
      { machine.record (.output (bytes.take room)) with room := some (room - bytes.length) }
    if room < bytes.length then throw .outputFull

def write (text : Text) : Action Unit := writeBytes (Utf8.encode text)

def ask (call : Call) (question : FileSystem → α) : Action α := do
  modify (·.record (.call call))
  return question (← get).files

def demand (asked : Action (Except HostError α)) (blame : HostError → RunFault) : Action α := do
  match ← asked with
  | .ok answer => return answer
  | .error error => throw (blame error)

/-- Asks the host for a change that may stay incomplete; a refusal is a fault. -/
def attempt (call : Call) (change : FileSystem → Except HostError α × FileSystem)
    (blame : HostError → RunFault) : Action α := do
  modify (·.record (.call call))
  let (result, files) := change (← get).files
  modify fun machine => { machine with files := files }
  match result with
  | .ok answer => return answer
  | .error error => throw (blame error)

/-- Asks the host for a change that happens as a whole or not at all; a refusal is a fault. -/
def change (call : Call) (update : FileSystem → Except HostError FileSystem)
    (blame : HostError → RunFault) : Action Unit :=
  attempt call
    (fun files =>
      match update files with
      | .ok changed => (.ok (), changed)
      | .error error => (.error error, files))
    blame

/-! ### Requests

Each request is made with the paths that are recorded for it. -/

abbrev linkStatus (path : Path) : Action (Except HostError (Location × Node)) :=
  ask (.linkStatus path) (·.linkStatus path)

abbrev isDirectory (path : Path) : Action Bool := ask (.status path) (·.isDirectory path)

abbrev canonical (path : Path) : Action (Except HostError Path) :=
  ask (.canonical path) (·.canonical path)

abbrev list (path : Path) : Action (Except HostError (List (Name × Node))) :=
  ask (.list path) (·.list path)

abbrev readText (path : Path) : Action (Except HostError Text) :=
  ask (.readText path) (·.textOf path)

abbrev createFile (path : Path) (blame : HostError → RunFault) : Action Unit :=
  change (.createFile path) (·.create path) blame

abbrev makeDirectory (path : Path) (blame : HostError → RunFault) : Action Unit :=
  change (.makeDirectory path) (·.makeDirectory path) blame

abbrev writeFile (path : Path) (content : List UInt8) (blame : HostError → RunFault) :
    Action Unit :=
  change (.write path) (·.write path content) blame

abbrev appendToFile (path : Path) (content : List UInt8) (blame : HostError → RunFault) :
    Action Unit :=
  change (.append path) (·.append path content) blame

abbrev copyFile (source destination : Path) (blame : HostError → RunFault) : Action Unit :=
  change (.copyFile source destination) (·.copyFile source destination) blame

abbrev removeFile (path : Path) (blame : HostError → RunFault) : Action Unit :=
  change (.removeFile path) (·.removeFile path) blame

abbrev removeTree (path : Path) (blame : HostError → RunFault) : Action Unit :=
  attempt (.removeTree path) (·.removeTree path) blame

abbrev rename (source destination : Path) (blame : HostError → RunFault) : Action Unit :=
  change (.rename source destination) (·.rename source destination) blame

/-- Starts a process. How it behaves may depend on how many were started before it. -/
abbrev launch (programs : Programs) (started : Nat) (request : Launch)
    (blame : HostError → RunFault) : Action Completion :=
  attempt (.launch request) (programs started request) blame

end Action

end LineScript
