import LineScript.Process
import LineScript.Programs.Channel

/-!
# Programs that run

A running program has a file system at hand, descriptors that lead to channels, an environment, the
name it was called by and its arguments. Names, arguments, values and all it reads and writes are texts
of octets. Its complaints begin with its name and go to the descriptor for errors.
-/

namespace LineScript.Programs

set_option autoImplicit false

def inputDescriptor : Nat := 0

def outputDescriptor : Nat := 1

def errorDescriptor : Nat := 2

structure Process where
  name : Text
  arguments : List Text
  environment : Bindings Text Text
  descriptors : Bindings Nat Nat
  creationMask : Mode
  number : Nat

/-- What processes work on: files, channels by their numbers, the number of the next channel, and why
the running program could not write its output, if it could not. -/
structure Workspace where
  files : FileSystem
  channels : Bindings Nat Channel
  fresh : Nat
  outputFault : Option HostError

abbrev Running (α : Type) := ReaderT Process (StateM Workspace) α

abbrev Program := Running ExitStatus

abbrev Launcher := (path : Text) → Process → StateM Workspace (Except HostError ExitStatus)

namespace Workspace

def addChannel (channel : Channel) (workspace : Workspace) : Nat × Workspace :=
  (workspace.fresh,
    { workspace with
      channels := workspace.channels.insert workspace.fresh channel
      fresh := workspace.fresh + 1 })

def write (number : Nat) (bytes : List UInt8) (workspace : Workspace) : Except HostError Workspace :=
  match workspace.channels.get? number with
  | none => .error .badDescriptor
  | some channel =>
    match channel.write workspace.files bytes with
    | .error error => .error error
    | .ok (channel, files) =>
      .ok { workspace with
        files := files
        channels := workspace.channels.insert number channel }

def read (reader : FileSystem → Channel → Except HostError (List UInt8 × Channel)) (number : Nat)
    (workspace : Workspace) : Except HostError (List UInt8 × Workspace) :=
  match workspace.channels.get? number with
  | none => .error .badDescriptor
  | some channel =>
    match reader workspace.files channel with
    | .error error => .error error
    | .ok (bytes, channel) =>
      .ok (bytes, { workspace with channels := workspace.channels.insert number channel })

def collected (workspace : Workspace) (number : Nat) : List UInt8 :=
  ((workspace.channels.get? number).map Channel.collected).getD []

end Workspace

def descriptorOf? (path : Text) : Option Nat :=
  match Text.toString path with
  | "/dev/stdin" => some inputDescriptor
  | "/dev/stdout" => some outputDescriptor
  | "/dev/stderr" => some errorDescriptor
  | _ =>
    ["/dev/fd/", "/proc/self/fd/"].findSome? fun folder =>
      let digits := path.drop folder.length
      if folder.toList.isPrefixOf path && !digits.isEmpty && digits.all Char.isDigit then
        some (digits.foldl (fun n c => n * 10 + (c.toNat - '0'.toNat)) 0)
      else none

namespace Running

variable {α : Type}

def ask (question : FileSystem → α) : Running α := return question (← get).files

def change (update : FileSystem → Except HostError FileSystem) : Running (Except HostError Unit) := do
  match update (← get).files with
  | .ok files =>
    modify fun workspace => { workspace with files := files }
    return .ok ()
  | .error error => return .error error

def maskedMode (wished : Mode) : Running Mode :=
  return wished ^^^ (wished &&& (← read).creationMask)

def write (descriptor : Nat) (octets : Text) : Running (Except HostError Unit) := do
  match (← read).descriptors.get? descriptor with
  | none => return .error .badDescriptor
  | some number =>
    match (← get).write number (Octets.bytes octets) with
    | .ok workspace =>
      set workspace
      return .ok ()
    | .error error => return .error error

def print (octets : Text) : Running Unit := do
  match ← write outputDescriptor octets with
  | .ok () => return ()
  | .error error => modify fun workspace => { workspace with outputFault := some error }

def printLine (octets : Text) : Running Unit := print (octets ++ ['\n'])

/-- Writes a line to the error stream: the program's name and the parts of its complaint. -/
def complain (parts : List Text) : Running Unit := do
  let _ ← write errorDescriptor (Text.join ": ".toList ((← read).name :: parts) ++ ['\n'])

/-- Complains about a way of calling and points to the explanation of the program. -/
def complainOfUse (complaint : Text) : Running Unit := do
  complain [complaint]
  let _ ← write errorDescriptor
    ("Try '".toList ++ (← read).name ++ " --help' for more information.\n".toList)

def readInput : Running (Except HostError Text) := do
  match (← read).descriptors.get? inputDescriptor with
  | none => return .error .badDescriptor
  | some number =>
    match (← get).read (fun files channel => channel.readAll files) number with
    | .ok (bytes, workspace) =>
      set workspace
      return .ok (Octets.ofBytes bytes)
    | .error error => return .error error

/-- Reads the file that a path leads to, or the descriptor that the path stands for, to its end. -/
def readFile (path : Text) : Running (Except HostError Text) := do
  match descriptorOf? path with
  | some descriptor =>
    match (← read).descriptors.get? descriptor with
    | none => return .error .noSuchEntry
    | some number =>
      match (← get).read (fun files channel => channel.readAll files) number with
      | .ok (bytes, workspace) =>
        set workspace
        return .ok (Octets.ofBytes bytes)
      | .error error => return .error error
  | none => ask fun files => (files.contentOf (Octets.text path)).map Octets.ofBytes

/-- Ends a program: output that could not be written makes it fail with a code of its own. -/
def finish (failure : Nat) (status : ExitStatus) : Running ExitStatus := do
  match (← get).outputFault with
  | none => return status
  | some error =>
    modify fun workspace => { workspace with outputFault := none }
    complain ["write error".toList, error.description]
    return .exited failure

/-- Carries out a step for every item, even if some of them fail. The status tells whether all went
well. -/
def forAll (items : List α) (step : α → Running Bool) : Running ExitStatus := do
  let results ← items.mapM step
  return .exited (if results.all id then 0 else 1)

end Running

end LineScript.Programs
