import LineScript.Programs.Executable

/-!
# The standard programs

The programs that a script starts are no part of the interpreter: the engine takes them as a parameter,
and what is proved of it holds for all programs. The modules of this directory stand in for some that
every host has, so that the command line can run scripts by itself. No other module uses them.

A launch is refused when a text it passes on holds a zero character, when its directory cannot be
entered, or when its program cannot be found and executed. Otherwise the program runs with an empty
input to its end.
-/

namespace LineScript.Programs

set_option autoImplicit false

def nestingLimit : Nat := 64

def runTool (launch : Launcher) (tool : Tool) (process : Process) : StateM Workspace ExitStatus := do
  let directory := (← get).files.workingDirectory
  let status ← (tool.program launch).run process
  modify fun workspace =>
    { workspace with files := { workspace.files with workingDirectory := directory } }
  return status

def launchWithin : (nesting : Nat) → Launcher
  | 0, _, _ => return .error .linkLoop
  | nesting + 1, path, process => do
    match Executable.load (← get).files Executable.levelLimit path process with
    | .error error => return .error error
    | .ok (tool, process) => return .ok (← runTool (launchWithin nesting) tool process)

def holdsZero (request : Launch) : Bool :=
  (request.directory :: request.command.program :: request.command.arguments).any (·.contains '\x00')

def environmentFor (home : Option Text) : Bindings Text Text :=
  (home.toList.map fun home => ("HOME".toList, Octets.ofText home)) ++
    [("LC_ALL".toList, "C".toList), ("PATH".toList, Text.join [':'] Executable.searchDirectories)]

def processOf (environment : Bindings Text Text) (command : Command) : Process where
  name := Octets.ofText command.program
  arguments := command.arguments.map Octets.ofText
  environment := environment
  descriptors := [(inputDescriptor, 0), (outputDescriptor, 1), (errorDescriptor, 2)]
  creationMask := 0o022
  number := 4242

def runIn (environment : Bindings Text Text) (location : Location) (command : Command)
    (files : FileSystem) : Except HostError Completion × FileSystem :=
  let workspace : Workspace :=
    ⟨{ files with workingDirectory := location }, [(0, .source []), (1, .sink []), (2, .sink [])],
      3, none⟩
  match Executable.find workspace.files (processOf environment command) with
  | .error error => (.error error, files)
  | .ok (tool, process) =>
    let (status, after) := (runTool (launchWithin nestingLimit) tool process).run workspace
    (.ok ⟨status, after.collected 1, after.collected 2⟩,
      { after.files with workingDirectory := files.workingDirectory })

/-- The standard programs, started with the given variables. None of them looks at what was started
before. -/
def standard (environment : Bindings Text Text) : Programs := fun _ request files =>
  if holdsZero request then (.error .nulInArgument, files)
  else
    match files.status request.directory with
    | .error error => (.error error, files)
    | .ok (location, .directory) => runIn environment location request.command files
    | .ok _ => (.error .notDirectory, files)

def locationOf (names : List String) : Location :=
  names.filterMap fun name => Name.ofText? name.toList

def standardFiles : FileSystem :=
  let directories : List (List String) :=
    [["usr"], ["usr", "bin"], ["usr", "sbin"], ["usr", "local"], ["usr", "local", "bin"],
      ["usr", "local", "sbin"], ["dev"], ["tmp"], ["etc"], ["home"], ["root"], ["var"]]
  let nodes : List (List String × Node) :=
    [(["bin"], .link "usr/bin".toList), (["sbin"], .link "usr/sbin".toList),
      (["dev", "null"], .device .null), (["dev", "full"], .device .full)] ++
    Tool.all.map fun tool => (["usr", "bin", tool.name], .file tool.image .program)
  let entries := directories.map (fun names => (names, Node.directory)) ++ nodes
  .ofList (entries.map fun (names, node) => (locationOf names, node))

end LineScript.Programs
