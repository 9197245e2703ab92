import LineScript.Machine
import LineScript.Script
import LineScript.Search

/-!
# Executing instructions

Each operation resolves its tokens in the session, asks the host for what it needs, and only then
changes the session and writes to the output; a blank line follows the output of every instruction.
Operations that must not overwrite look first whether something stands at their path, a link counting
as something even if it leads nowhere.
-/

namespace LineScript.Engine

set_option autoImplicit false

def reportUnbound (tokens : List Token) : Action Unit := do
  let session ← Action.session
  tokens.forM fun token =>
    match session.unboundName? token with
    | some name => Action.report (.unboundVariable name)
    | none => pure ()

def resolve (token : Token) : Action Text := do
  reportUnbound [token]
  return (← Action.session).resolve token

def resolvePath (token : Token) : Action Path := do
  reportUnbound [token]
  return (← Action.session).resolvePath token

def ensurePresent (path : Path) : Action Node := do
  let (_, node) ← Action.demand (Action.linkStatus path) fun error =>
    if error = .noSuchEntry then .notFound path else .host .inspect path error
  return node

def ensureAbsent (path : Path) : Action Unit := do
  match ← Action.linkStatus path with
  | .ok _ => throw (.alreadyExists path)
  | .error .noSuchEntry => return ()
  | .error error => throw (.host .inspect path error)

/-- Runs a command to its end in the working directory. Its value is what it wrote to its output
followed by what it wrote to its error stream. -/
def runCommand (programs : Programs) (command : Command) : Action Text := do
  Action.report (.running command.display)
  let launch : Launch := ⟨command, (← Action.session).directory⟩
  let started ← Action.launches
  let completion ← Action.launch programs started launch fun error =>
    .command command.display (.unstartable error)
  if completion.status.isSuccess then
    return Utf8.decodeLossy completion.output ++ Utf8.decodeLossy completion.errors
  else
    throw (.command command.display
      (.failed completion.status (Utf8.decodeLossy completion.errors)))

def resolveCommand (token : Token) : Action Command := do
  let text ← resolve token
  match Command.ofText? (← Action.session) text with
  | some command => return command
  | none => throw (.command text .noWords)

/-- Copies the file, or the directory with all that is below it, that `source` leads to. Links on the
way are followed. The descent into directories ends because no path beyond the limit leads to one. -/
def copyTree (blame : HostError → RunFault) (source destination : Path) : Action Unit := do
  let descends ← Action.isDirectory source
  if _within : descends = true ∧ Utf8.size source < Path.sizeLimit then
    Action.makeDirectory destination blame
    let entries ← Action.demand (Action.list source) blame
    entries.forM fun (name, _) =>
      copyTree blame (Path.join source name.text) (Path.join destination name.text)
  else Action.copyFile source destination blame
termination_by Path.sizeLimit - Utf8.size source
decreasing_by
  have longer := Search.size_lt_size_join source name
  omega

def transferPaths (source destination : Token) : Action (Path × Path) := do
  let source ← resolvePath source
  let destination ← resolvePath destination
  let _ ← ensurePresent source
  ensureAbsent destination
  return (source, destination)

def reportSearch (steps : List SearchStep) : Action Unit :=
  steps.forM fun
    | .listing directory => modify (·.record (.call (.list directory)))
    | .unlistable directory error => Action.report (.skipped directory error)
    | .hit _ => pure ()

def runEach (programs : Programs) (group : Text) (command : Token) : Action Unit := do
  match (← Action.session).group group with
  | [] => Action.report (.emptyGroup group)
  | entries =>
    let template ← resolveCommand command
    entries.forM fun entry => do
      Action.report (.entry entry)
      let output ← runCommand programs (template.fill entry)
      Action.write (output ++ ['\n'])

/-- What an operation does, apart from the blank line after it. -/
def perform (programs : Programs) : Operation → Action Unit
  | .echo arguments => do
    reportUnbound arguments
    let session ← Action.session
    Action.write (Text.join [' '] (arguments.map session.echoed) ++ ['\n'])
  | .execute command capture => do
    let command ← resolveCommand command
    let output ← runCommand programs command
    match capture with
    | some name => Action.updateSession (·.setVariable name output)
    | none => Action.write output
  | .set name value => Action.updateSession (·.setVariable name (Text.trimMarks '"' value.text))
  | .createFile path => do
    let path ← resolvePath path
    ensureAbsent path
    Action.report (.creatingFile path)
    Action.createFile path (.host .createFile path)
  | .makeDirectory path => do
    let path ← resolvePath path
    ensureAbsent path
    Action.report (.creatingDirectory path)
    Action.makeDirectory path (.host .makeDirectory path)
  | .changeDirectory path => do
    let path ← resolvePath path
    let target ← Action.demand (Action.canonical path) fun error =>
      .directory path (.unreachable error)
    if ← Action.isDirectory target then
      Action.report (.changedDirectory target)
      Action.updateSession (·.setDirectory target)
    else throw (.directory path .notDirectory)
  | .remove path => do
    let path ← resolvePath path
    let node ← ensurePresent path
    Action.report (.removing path)
    if node = .directory then
      Action.removeTree path (.host .remove path)
    else
      Action.removeFile path (.host .remove path)
  | .copy source destination => do
    let (source, destination) ← transferPaths source destination
    copyTree (.host .copyTo destination) source destination
    Action.report (.copied source destination)
  | .move source destination => do
    let (source, destination) ← transferPaths source destination
    Action.rename source destination (.host .moveTo destination)
    Action.report (.moved source destination)
  | .read source target => do
    let path ← resolvePath source
    let _ ← ensurePresent path
    let data ← Action.demand (Action.readText path) (.host .read path)
    Action.report (.readFrom path)
    match target with
    | some name => Action.updateSession (·.setVariable name data)
    | none => Action.write (data ++ ['\n'])
  | .write path data => do
    let path ← resolvePath path
    let data ← resolve data
    Action.writeFile path (Utf8.encode data) (.host .writeTo path)
    Action.report (.wroteTo path)
  | .append path data => do
    let path ← resolvePath path
    let data ← resolve data
    Action.appendToFile path (Utf8.encode data) (.host .appendTo path)
    Action.report (.appendedTo path)
  | .find pattern group => do
    let pattern ← resolve pattern
    match Glob.pieces pattern with
    | .error fault => throw (.pattern pattern fault)
    | .ok pieces =>
      let files ← Action.files
      let session ← Action.session
      let steps := Search.run files (Glob.accepts pieces) session.directory
      reportSearch steps
      let found := Search.hits steps
      Action.report (.found found.length pattern group)
      Action.updateSession (·.setGroup group found)
  | .each group command => runEach programs group command

/-- Executes one instruction: it is reported, performed, and followed by a blank line. -/
def execute (programs : Programs) (instruction : Instruction) : Action Unit := do
  Action.report (.executing instruction.line instruction.display)
  perform programs instruction.operation
  Action.write ['\n']

def executeAll (programs : Programs) (instructions : List Instruction) : Action Unit :=
  instructions.forM (execute programs)

def loadScript (path : Path) : Action Text := do
  let _ ← ensurePresent path
  let source ← Action.demand (Action.readText path) (.host .readScript path)
  Action.report (.loaded path)
  return source

/-- Validates a source as a whole and then executes it. -/
def runSource (programs : Programs) (source : Text) (machine : Machine) :
    Except Fault Unit × Machine :=
  match Script.parse source with
  | .error fault => (.error (.script fault), machine)
  | .ok instructions =>
    let (result, machine) := (executeAll programs instructions).run machine
    (result.mapError .run, machine)

def runScript (programs : Programs) (path : Path) (machine : Machine) :
    Except Fault Unit × Machine :=
  let loading : Action Text := do
    Action.report .started
    loadScript path
  match loading.run machine with
  | (.ok source, machine) => runSource programs source machine
  | (.error fault, machine) => (.error (.run fault), machine)

end LineScript.Engine
