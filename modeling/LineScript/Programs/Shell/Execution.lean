import LineScript.Programs.Shell.Builtin.Arguments
import LineScript.Programs.Shell.Builtin.Directories
import LineScript.Programs.Shell.Builtin.Names
import LineScript.Programs.Shell.Builtin.Processes
import LineScript.Programs.Shell.Builtin.Settings
import LineScript.Programs.Shell.Condition
import LineScript.Programs.Shell.Format
import LineScript.Programs.Shell.Reader
import LineScript.Programs.Shell.Redirections
import LineScript.Programs.Echo

/-!
# Carrying out statements

What the statements of a script do. A statement that is tested may fail even where the shell was told to
end at a failure; a final one is the last of its shell. Pipelines, statements in parentheses and command
substitutions are carried out by a shell inside of the shell, one after the other. All is defined over a
way to carry out statements that are nested less deeply.
-/

namespace LineScript.Programs.Shell

set_option autoImplicit false

structure Means where
  launch : Launcher
  evaluate : (final tested : Bool) → Statement → Act Unit

namespace Means

variable (means : Means)

def sequence (final tested : Bool) : List Statement → Act Unit
  | [] => if final then throw (.ended false) else return ()
  | [statement] => means.evaluate final tested statement
  | statement :: rest => do
    means.evaluate false tested statement
    sequence final tested rest

/-- Shows the lines that were read, up to the end of the one that reading has come to. -/
def echoLines (before after : Text) : Act Unit := do
  let read := before.take (before.length - after.length)
  let begun := if read.getLast? == some '\n' then [] else after.takeWhile (· != '\n') ++ ['\n']
  if !read.isEmpty then
    let _ ← Act.writeDescriptor errorDescriptor (read ++ begun)

/-- Reads the statements of a source and carries them out. The answer is the status of the last of them,
zero if there are none. -/
def carryOut (echoes final tested : Bool) : (fuel : Nat) → (status : Nat) → Source → Act Nat
  | 0, status, _ => return status
  | fuel + 1, status, source => do
    let state ← Act.state
    let before :=
      { source with aliases := state.aliases, documents := [], nextDocument := state.nextDocument }
    let echo (after : Source) : Act Unit :=
      if echoes && state.flags.contains 'v' then echoLines before.rest after.rest else return ()
    match Reader.next?.run before with
    | .error fault after =>
      echo after
      Act.change fun state => { state with line := after.line }
      Act.fail ["Syntax error".toList, fault.message]
    | .ok statements? after =>
      echo after
      Act.change fun state =>
        { state with
          sourceLine := after.line
          documents := after.documents ++ state.documents
          nextDocument := after.nextDocument }
      match statements? with
      | none => return status
      | some statements =>
        let atEnd := match after.last with
          | .ending => true
          | _ => false
        sequence means (final && atEnd) tested statements
        let state ← Act.state
        carryOut echoes final tested fuel (if statements.isEmpty then status else state.status) after

def runText (echoes final tested : Bool) (text : Text) : Act Nat := do
  let state ← Act.state
  let source := Source.ofText state.aliases state.nextDocument text
  Act.always (carryOut means echoes final tested (text.length + 1) 0 source)
    (Act.change fun inner => { inner with sourceLine := state.sourceLine })

/-- Carries out the actions of traps for signals that came in, the lowest signal first. -/
def attend : (fuel : Nat) → Act Unit
  | 0 => return ()
  | fuel + 1 => do
    let state ← Act.state
    match state.pendingSignals.min? with
    | none => return ()
    | some signal =>
      Act.change fun state =>
        { state with pendingSignals := state.pendingSignals.filter (· != signal) }
      match state.traps.get? signal with
      | none => attend fuel
      | some action =>
        let status := state.kept?.getD state.status
        Act.change fun state => { state with kept? := some status }
        let leave (restores : Bool) : Act Unit :=
          Act.change fun inner =>
            { inner with
              kept? := state.kept?
              status := if restores then status else inner.status }
        match ← Act.attempt (runText means false false false action) with
        | .ok _ =>
          leave true
          attend fuel
        | .error (.returned withStatus) =>
          leave (!withStatus)
          throw (.returned withStatus)
        | .error (.left again levels) =>
          leave true
          throw (.left again levels)
        | .error interruption => throw interruption

/-- Carries out the action of the trap for the end of a shell. The status is the one before, unless the
action ends the shell in another way. -/
def runExitTrap : Act ExitStatus := do
  let state ← Act.state
  let exited : Act ExitStatus := do
    let _ ← Act.flush
    return .exited ((← Act.state).status % 256)
  match state.traps.get? 0 with
  | none => exited
  | some action =>
    Act.change fun state =>
      { state with traps := state.traps.erase 0, kept? := some state.status, loops := 0 }
    match ← Act.attempt (runText means false false false action) with
    | .ok _ | .error (.returned _) | .error (.left _ _) | .error (.ended true) =>
      Act.setStatus ((← Act.state).kept?.getD state.status)
      exited
    | .error (.killed signal) => return .killed signal
    | .error .failed | .error (.ended false) => exited

def conclude (step : Act Unit) : Act ExitStatus := do
  match ← Act.attempt step with
  | .error (.killed signal) => return .killed signal
  | .error (.ended true) =>
    let state ← Act.state
    Act.change fun state => { state with status := state.kept?.getD state.status }
    if state.kept?.isSome then Act.change fun state => { state with kept? := none }
    runExitTrap means
  | _ => runExitTrap means

/-- What a shell inside of another one remembers. Some of its descriptors may lead elsewhere, and of the
traps only those that ignore stay. -/
def inside (leads : List (Nat × Nat)) (state : State) : State :=
  { state with
    outermost := false
    descriptors :=
      leads.foldl (fun descriptors (descriptor, number) => descriptors.insert descriptor number)
        state.descriptors
    traps := state.traps.filter (·.2.isEmpty)
    pendingSignals := []
    sentSignals := []
    jobs := [] }

def childSignal : Nat := 17

def forgetAwaited : Act Unit :=
  Act.change fun state => { state with jobs := state.jobs.filter (!·.2.awaited) }

def noteEnd : Act Unit := do
  if (← Act.state).traps.any fun (signal, action) => signal = childSignal && !action.isEmpty then
    Processes.receive childSignal

/-- Carries out a step in a shell of its own, some of whose descriptors lead elsewhere. -/
def inChild (leads : List (Nat × Nat)) (step : Act Unit) : Act ExitStatus := do
  forgetAwaited
  let outer ← Act.state
  let directory ← Act.ask (·.workingDirectory)
  Act.change (inside leads)
  let status ← conclude means step
  let inner ← Act.state
  modify fun world =>
    { world with
      state := { outer with
        nextNumber := inner.nextNumber
        sentSignals := outer.sentSignals ++ inner.sentSignals }
      workspace := { world.workspace with
        files := { world.workspace.files with workingDirectory := directory } } }
  noteEnd
  if outer.outermost then
    let sent := (← Act.state).sentSignals
    Act.change fun state => { state with sentSignals := [] }
    sent.forM Processes.receive
  return status

/-- Tells the user that a signal ended a process, and gives the code of its end. -/
def report (status : ExitStatus) : Act Nat := do
  if let .killed signal := status then
    if let some notice := Signal.notice? signal then
      let _ ← Act.writeDescriptor errorDescriptor (notice ++ ['\n'])
  return Act.codeOf status

def hasTraps : Act Bool := return (← Act.state).traps.any (!·.2.isEmpty)

def substitute (body : List Statement) : Act Text := do
  if body.isEmpty then return []
  else
    let sink ← Act.addChannel (.sink [])
    let status ← inChild means [(outputDescriptor, sink)] (means.sequence true false body)
    let bytes ← Act.drain sink
    let code ← report status
    Act.change fun state => { state with substituted := code }
    return Octets.ofBytes (bytes.filter (· != 0))

/-- Looks for the program of a part of a pipeline, so that the shell itself knows it. -/
def prepare : Statement → Act Unit
  | .simple _ _ (word :: _) _ => do
    if let some name := Word.plainText? word then
      if isName name then
        let _ ← Lookup.find (← Lookup.searchPath) name
  | _ => return ()

/-- Carries out the parts of a pipeline, each of which reads what the one before has written. The status
is that of the last. -/
def pipeline (tested : Bool) (source? : Option Nat) : List Statement → Act Unit
  | [] => return ()
  | part :: rest => do
    let step := means.evaluate true tested part
    let leads := source?.toList.map (inputDescriptor, ·)
    prepare part
    let forget : Act Unit := source?.forM fun source => do
      let _ ← Act.drain source
    if rest.isEmpty then
      let status ← inChild means leads step
      forget
      Act.setStatus (← report status)
    else
      let sink ← Act.addChannel (.sink [])
      let status ← inChild means ((outputDescriptor, sink) :: leads) step
      forget
      let _ ← report status
      let source ← Act.addChannel (.source (← Act.drain sink))
      pipeline tested (some source) rest

def freeSlot (jobs : List (Nat × Job)) : Nat :=
  ((List.range (jobs.length + 1)).map (· + 1)).find? (fun slot => !jobs.any (·.1 == slot)) |>.getD 1

def background (body : Statement) : Act Unit := do
  let number ← Act.freshNumber
  let input ← Act.addChannel (.device .null Opening.reading.access)
  let status ← inChild means [(inputDescriptor, input)] (means.evaluate true false body)
  Act.change fun state =>
    { state with
      jobs := (freeSlot state.jobs, ⟨number, status, false⟩) :: state.jobs
      lastJob? := some number
      status := 0 }

/-- Carries out statements in parentheses. The shell itself serves if it ends with them. -/
def subshell (final tested : Bool) (body : List Statement) (redirections : List Redirection) :
    Act Unit := do
  let requests ← redirections.mapM (Redirections.expand (substitute means))
  let step : Act Unit := do
    requests.forM (Redirections.perform (substitute means))
    means.sequence true tested body
  if final && !(← hasTraps) then step
  else
    let status ← inChild means [] step
    Act.setStatus (← report status)

/-- Where a way out of loops leads from the innermost one: to its next round or behind it, or further. -/
def loopExit : Interruption → Except Interruption Bool
  | .left again levels => if levels ≤ 1 then .ok again else .error (.left again (levels - 1))
  | interruption => .error interruption

def insideLoop {α : Type} (step : Act α) : Act α := do
  Act.change fun state => { state with loops := state.loops + 1 }
  Act.always step (Act.change fun state => { state with loops := state.loops - 1 })

def roundLimit : Nat := 0x1000000000000

def rounds (untilTrue tested : Bool) (test body : List Statement) :
    (fuel : Nat) → (status : Nat) → Act Unit
  | 0, _ => return ()
  | fuel + 1, status => do
    match ← Act.attempt (means.sequence false true test) with
    | .error interruption =>
      match loopExit interruption with
      | .ok true => rounds untilTrue tested test body fuel status
      | .ok false => Act.setStatus status
      | .error (.left again levels) =>
        Act.setStatus status
        throw (.left again levels)
      | .error interruption => throw interruption
    | .ok () =>
      if ((← Act.state).status = 0) = untilTrue then Act.setStatus status
      else
        match ← Act.attempt (means.sequence false tested body) with
        | .ok () => rounds untilTrue tested test body fuel (← Act.state).status
        | .error interruption =>
          match loopExit interruption with
          | .ok true => rounds untilTrue tested test body fuel (← Act.state).status
          | .ok false => return ()
          | .error interruption => throw interruption

def iterate (tested : Bool) (name : Text) (body : List Statement) : List Text → Act Unit
  | [] => return ()
  | value :: rest => do
    Act.setVariable name value
    match ← Act.attempt (means.sequence false tested body) with
    | .ok () => iterate tested name body rest
    | .error interruption =>
      match loopExit interruption with
      | .ok true => iterate tested name body rest
      | .ok false => return ()
      | .error interruption => throw interruption

def matchesAny (subject : Text) : List Word → Act Bool
  | [] => return false
  | pattern :: rest => do
    if (← Expansion.patternOf (substitute means) pattern).accepts subject then return true
    else matchesAny subject rest

def choose (final tested : Bool) (subject : Text) :
    List (List Word × List Statement) → Act Unit
  | [] => Act.setStatus 0
  | (patterns, body) :: rest => do
    if ← matchesAny means subject patterns then
      if body.isEmpty then Act.setStatus 0 else means.sequence final tested body
    else choose final tested subject rest

/-- Starts the program of a command, trying one path after the other. The answer tells how it ended, or
why none was started. -/
def tryPaths (process : Process) (error : HostError) : List Text → Act (Except HostError ExitStatus)
  | [] => return .error error
  | path :: rest => do
    match ← start path process with
    | .ok status => return .ok status
    | .error .noSuchEntry | .error .notDirectory => tryPaths process error rest
    | .error .notExecutableFormat =>
      let content ← Act.ask (·.contentOf (Octets.text path))
      if path = shellPath || (content.toOption.any isBinary) then
        tryPaths process .notExecutableFormat rest
      else
        match ← start shellPath
            { process with name := shellPath, arguments := path :: process.arguments } with
        | .ok status => return .ok status
        | .error error => tryPaths process error rest
    | .error error => tryPaths process error rest
where
  /-- The path of the shell. -/
  shellPath : Text := "/bin/sh".toList
  /-- The bytes that are looked at to tell a script. -/
  sampleSize : Nat := 128
  /-- Whether the first line holds bytes that no text has. -/
  isBinary (content : List UInt8) : Bool :=
    ((content.take sampleSize).takeWhile (· != 10)).any fun byte =>
      byte < 9 || 15 < byte && byte < 32 && byte != 27 || byte == 127
  /-- Starts the program in a file. -/
  start (path : Text) (process : Process) : Act (Except HostError ExitStatus) := do
    let world ← get
    let (result, workspace) := (means.launch path process).run world.workspace
    set { world with workspace := workspace }
    return result

def refusalCode (error : HostError) : Nat :=
  if error = .noSuchEntry || error = .notDirectory || error = .linkLoop || error = .nameTooLong then 127
  else 126

def runProgram (paths fields : List Text) : Act ExitStatus := do
  let number ← Act.freshNumber
  let state ← Act.state
  let name := fields.headD []
  let process : Process :=
    { name := name
      arguments := fields.tail
      environment := ← Act.environment
      descriptors := state.descriptors
      creationMask := state.creationMask
      number := number }
  match ← tryPaths means process .noSuchEntry paths with
  | .ok status => return status
  | .error error =>
    Act.complain [name, Lookup.refusal error]
    return .exited (refusalCode error)

def replace (status : ExitStatus) : Act Unit :=
  match status with
  | .killed signal => throw (.killed signal)
  | .exited code => do
    Act.setStatus code
    throw (.ended false)

def external (final : Bool) (paths fields : List Text) : Act Unit := do
  if final && !(← hasTraps) then replace (← runProgram means paths fields)
  else
    forgetAwaited
    let status ← runProgram means paths fields
    noteEnd
    Act.setStatus (← report status)

def functionLimit : Nat := 1000

def call (tested : Bool) (body : Statement) (arguments : List Text) : Act Unit := do
  let before ← Act.state
  if functionLimit ≤ before.functionDepth then
    Act.fail
      ["Maximum function recursion depth (".toList ++ Text.decimal functionLimit ++
        ") reached".toList]
  else
    Act.change fun state =>
      { state with
        arguments := arguments
        loops := 0
        optionIndex := 1
        optionPlace := none
        functionDepth := state.functionDepth + 1 }
    let result ← Act.attempt (means.evaluate false tested body)
    Act.change fun state =>
      { state with
        arguments := before.arguments
        loops := before.loops
        optionIndex := before.optionIndex
        optionPlace := before.optionPlace
        functionDepth := before.functionDepth }
    match result with
    | .ok () | .error (.returned _) => return ()
    | .error interruption => throw interruption

def scriptPath (name : Text) : Act Text := do
  if name.contains '/' then return name
  else
    let candidates := Lookup.candidates (← Lookup.searchPath) name
    match ← Act.ask fun files => candidates.find? fun path => (Redirections.standing files path).1 with
    | some path => return path
    | none => Act.fail [name, "not found".toList]

def scriptText (path : Text) : Act Text := do
  let number ← Redirections.openPath .reading false path
  let world ← get
  match world.workspace.read (fun files channel => channel.readAll files) number with
  | .ok (bytes, workspace) =>
    set { world with workspace := workspace }
    return Octets.ofBytes (bytes.filter (· != 0))
  | .error _ => return []

def runFile (name : Text) : Act Nat := do
  let path ← scriptPath name
  let text ← scriptText path
  Act.change fun state => { state with builtin? := some path }
  match ← Act.attempt (runText means true false false text) with
  | .ok status => return status
  | .error (.returned _) => return (← Act.state).status
  | .error interruption => throw interruption

def levelsOf (arguments : List Text) : Act Nat := do
  match arguments with
  | [] => return 1
  | written :: _ =>
    match ← Act.naturalOf written with
    | 0 => Act.fail ["Illegal number".toList, written]
    | levels => return levels

def leaveLoops (again : Bool) (arguments : List Text) : Act Nat := do
  let levels := min (← levelsOf arguments) (← Act.state).loops
  if levels = 0 then return 0
  else
    Act.setStatus 0
    throw (.left again levels)

def test (bracketed : Bool) (arguments : List Text) : Act Nat := do
  let answer ← match Condition.ofArguments bracketed arguments with
    | .ok words => Act.ask (Condition.answer · words)
    | .error fault => pure (.error fault)
  match answer with
  | .ok holds => return if holds then 0 else 1
  | .error fault => Act.fail fault.message

def runBuiltin (tested : Bool) (name : Text) (arguments : List Text) : Builtin → Act Nat
  | .aliases => Names.aliases arguments
  | .bg | .fg => Processes.resume arguments
  | .break => leaveLoops false arguments
  | .continue => leaveLoops true arguments
  | .cd => Directories.cd arguments
  | .command => Names.command arguments
  | .dot => do
    let (_, operands) ← Builtin.options "" "" arguments
    match operands with
    | [] => return 0
    | name :: _ => runFile means name
  | .echo => do
    Act.print (Echo.inShell arguments)
    return 0
  | .eval => runText means false false tested (Text.join [' '] arguments)
  | .exec => do
    if arguments.isEmpty then return 0
    else
      Settings.turn false 'i'
      Settings.turn false 'm'
      let name := arguments.headD []
      let directories ← Lookup.searchPath
      let paths := if name.contains '/' then [name] else Lookup.candidates directories name
      replace (← runProgram means paths arguments)
      return 0
  | .exit => do
    match arguments with
    | [] => throw (.ended true)
    | written :: _ =>
      let status ← Act.naturalOf written
      Act.change fun state => { state with kept? := some status }
      throw (.ended true)
  | .export => Variables.declareExported arguments
  | .fail => return 1
  | .getopts => Arguments.getopts arguments
  | .hash => Names.hash arguments
  | .jobs => Processes.jobs arguments
  | .kill => Processes.kill arguments
  | .local => Variables.declareLocal arguments
  | .printf => do
    let (_, operands) ← Builtin.options "" "" arguments
    match operands with
    | [] => Act.fail ["usage: printf format [arg ...]".toList]
    | format :: operands => Format.write format operands
  | .pwd => Directories.pwd arguments
  | .read => Arguments.read arguments
  | .readonly => Variables.declareReadonly arguments
  | .return => do
    match arguments with
    | [] => throw (.returned false)
    | written :: _ =>
      Act.setStatus (← Act.naturalOf written)
      throw (.returned true)
  | .set => Settings.set arguments
  | .shift => Arguments.shift arguments
  | .succeed => return 0
  | .test => test (name == ['[']) arguments
  | .times => Processes.times
  | .trap => Processes.trap arguments
  | .type => Names.type arguments
  | .ulimit => Settings.ulimit arguments
  | .umask => Settings.umask arguments
  | .unalias => Names.unalias arguments
  | .unset => Variables.unset arguments
  | .wait => Processes.wait arguments

/-- Carries out a built-in command with its output. An error in one that is not strict does not go beyond
it. -/
def callBuiltin (strict tested : Bool) (builtin : Builtin) (name : Text) (arguments : List Text) :
    Act Unit := do
  let before ← Act.state
  Act.change fun state => { state with builtin? := some name }
  let step : Act Unit := do
    let status ← runBuiltin means tested name arguments builtin
    if ← Act.flush then Act.setStatus status
    else
      Act.complain [name, "I/O error".toList]
      Act.setStatus (status ||| 1)
  let result ← Act.attempt step
  Act.change fun state => { state with builtin? := before.builtin?, buffer := [] }
  match result with
  | .ok () => return ()
  | .error .failed =>
    if strict then throw .failed else Act.popLocals before.locals.length
  | .error interruption => throw interruption

/-- What a simple command turns out to be before its redirections: the fields expanded so far with the
words after them, the built-in command that it names, whether errors in that go beyond it, whether its
assignments are its own, where programs are searched for, and whether functions count. -/
structure Resolved where
  fields : List Text
  words : List Word
  builtin? : Option Builtin
  strict? : Option Bool
  isLocal : Bool
  path? : Option Text
  functions : Bool

def firstFields : List Word → Act (List Text × List Word)
  | [] => return ([], [])
  | word :: rest => do
    match ← Expansion.fieldsOf (substitute means) word with
    | [] => firstFields rest
    | fields => return (fields, rest)

def afterFirst (fields : List Text) (words : List Word) : Act (List Text × List Word) :=
  match fields with
  | _ :: next :: others => return (next :: others, words)
  | _ => firstFields means words

/-- Takes the options of `command` off, if they ask for a command to be carried out. The answer holds that
command, and tells whether the standard search path is asked for. Each step takes a field; the fields that
were looked at come along for the case that they ask for something else. -/
def takePrefix : (steps : Nat) → (standard : Bool) → (seen fields : List Text) → (words : List Word) →
    Act (Option (Bool × List Text) × List Text × List Word)
  | 0, _, seen, fields, words => return (none, seen ++ fields, words)
  | steps + 1, standard, seen, fields, words => do
    let (next, words) ← afterFirst means fields words
    let seen := seen ++ fields.take 1
    match next with
    | [] => return (none, seen, words)
    | ['-', '-'] :: _ =>
      let (rest, words) ← afterFirst means next words
      if rest.isEmpty then return (none, seen ++ next, words)
      else return (some (standard, rest), seen ++ next, words)
    | ('-' :: letter :: letters) :: _ =>
      if (letter :: letters).all (· == 'p') then takePrefix steps true seen next words
      else return (none, seen ++ next, words)
    | _ => return (some (standard, next), seen ++ next, words)

/-- Finds out what the first field of a command names. Each step takes a prefix off. -/
def resolve : (steps : Nat) → Resolved → Act Resolved
  | 0, resolved => return resolved
  | steps + 1, resolved => do
    let name := resolved.fields.headD []
    let isFunction := resolved.functions && ((← Act.state).functions.get? name).isSome
    match if isFunction || name.contains '/' then none else Builtin.ofName? name with
    | none => return { resolved with builtin? := none, isLocal := true }
    | some builtin =>
      let special := Builtin.isSpecial name
      let resolved :=
        { resolved with
          builtin? := some builtin
          strict? := some (resolved.strict?.getD special)
          isLocal := if resolved.strict?.isNone then !special else true }
      if builtin ≠ .command then return resolved
      else
        let most := resolved.fields.length + resolved.words.length + 1
        let (taken?, fields, words) ← takePrefix means most false [] resolved.fields resolved.words
        match taken? with
        | none => return { resolved with fields := fields, words := words }
        | some (standard, rest) =>
          resolve steps
            { resolved with
              fields := rest
              words := words
              path? := if standard then some Lookup.standardPath else resolved.path?
              functions := false }

def restFields (assigns : Bool) : List Word → Act (List Text)
  | [] => return []
  | word :: rest => do
    let fields ←
      if assigns && (Word.assignment? word).isSome then
        pure [← Expansion.assignmentOf (substitute means) word]
      else Expansion.fieldsOf (substitute means) word
    return fields ++ (← restFields assigns rest)

/-- Carries out the assignments of a command one by one. The answer is their texts. -/
def assign (isLocal exports : Bool) : List Word → Act (List Text)
  | [] => return []
  | word :: rest => do
    let text ← Expansion.assignmentOf (substitute means) word
    let (name, value?) := Variables.declared text
    if isLocal then Variables.localize true name value?
    else
      Act.bindVariable name fun known? =>
        ⟨value?, exports || known?.any (·.exported), known?.any (·.readonly)⟩
    return text :: (← assign isLocal exports rest)

def traceMark : Act Text := do
  let state ← Act.state
  if state.tracing then return []
  else
    let written := (← Act.valueOf? "PS4".toList).getD []
    let source := Source.ofText state.aliases state.nextDocument written
    match (WordReader.shieldedPieces (Reader.substituted Reader.fuel) .document true Reader.fuel []).run
        source with
    | .error _ _ => return written
    | .ok word _ =>
      Act.change fun state => { state with tracing := true }
      Act.always (Expansion.documentOf (substitute means) word)
        (Act.change fun state => { state with tracing := false })

def trace (texts : List Text) : Act Unit := do
  if ← Act.hasFlag 'x' then
    let mark ← traceMark means
    if let some number := (← Act.state).traceChannel then
      let _ ← Act.writeChannel number (mark ++ Text.join [' '] texts ++ ['\n'])

def perform (final tested : Bool) (resolved : Resolved) (fields : List Text) : Act Unit := do
  match fields, resolved.builtin? with
  | [], _ => Act.setStatus (← Act.state).substituted
  | name :: arguments, some builtin =>
    callBuiltin means (resolved.strict?.getD false) tested builtin name arguments
  | name :: arguments, none =>
    let path := resolved.path?.getD (← Lookup.searchPath)
    let found ←
      if resolved.functions then Lookup.find path name else Lookup.withoutFunctions path name
    match found with
    | .function body => call means tested body arguments
    | .builtin builtin => callBuiltin means false tested builtin name arguments
    | .program paths => external means final paths fields
    | .missing error =>
      Act.complain [name, Lookup.refusal error]
      Act.setStatus 127

def simple (final tested : Bool) (line : Nat) (assignments words : List Word)
    (redirections : List Redirection) : Act Unit := do
  Act.change fun state => { state with line := line, substituted := 0 }
  let (fields, words) ← firstFields means words
  let named : Resolved := ⟨fields, words, none, none, false, none, true⟩
  let resolved ← if fields.isEmpty then pure named else resolve means (words.length + fields.length + 1) named
  let assigns := resolved.builtin?.any Builtin.takesAssignments
  let fields := resolved.fields ++ (← restFields means assigns resolved.words)
  let isExec := resolved.builtin? == some .exec
  let step : Act Unit := do
    let requests ← redirections.mapM (Redirections.expand (substitute means))
    Act.change fun state =>
      { state with traceChannel := state.descriptors.get? errorDescriptor }
    Redirections.hold isExec requests do
      if ← Redirections.performSafely (substitute means) requests then
        let texts ← assign means resolved.isLocal (isExec && 1 < fields.length) assignments
        trace means (texts ++ fields)
        perform means final tested resolved fields
      else
        Act.setStatus 2
        if resolved.strict?.getD false then throw .failed
  if resolved.isLocal then Act.withLocals step else step

def redirected (tested : Bool) (body : Statement) (redirections : List Redirection) : Act Unit := do
  let requests ← redirections.mapM (Redirections.expand (substitute means))
  Redirections.hold false requests do
    if ← Redirections.performSafely (substitute means) requests then means.evaluate false tested body
    else Act.setStatus 2

def dispatch (final tested : Bool) : Statement → Act Unit
  | .simple line assignments words redirections =>
    simple means final tested line assignments words redirections
  | .definition _ name body =>
    Act.change fun state =>
      { state with functions := state.functions.insert name body, status := 0 }
  | .sequence parts => means.sequence final tested parts
  | .both first second => do
    means.evaluate false true first
    if (← Act.state).status = 0 then means.evaluate final tested second
  | .either first second => do
    means.evaluate false true first
    if (← Act.state).status ≠ 0 then means.evaluate final tested second
  | .negation body => do
    means.evaluate false true body
    Act.change fun state => { state with status := if state.status = 0 then 1 else 0 }
  | .pipeline parts => pipeline means tested none parts
  | .background body => background means body
  | .conditional test body otherwise => do
    means.sequence false true test
    if (← Act.state).status = 0 then means.sequence final tested body
    else if otherwise.isEmpty then Act.setStatus 0
    else means.sequence final tested otherwise
  | .repetition untilTrue test body =>
    insideLoop (rounds means untilTrue tested test body roundLimit 0)
  | .iteration line name words body => do
    Act.change fun state => { state with line := line }
    let values ← restFields means false words
    Act.setStatus 0
    insideLoop (iterate means tested name body values)
  | .choice line subject branches => do
    Act.change fun state => { state with line := line }
    choose means final tested (← Expansion.textOf (substitute means) subject) branches
  | .subshell line body redirections => do
    Act.change fun state => { state with line := line }
    subshell means final tested body redirections
  | .redirected line body redirections => do
    Act.change fun state => { state with line := line }
    redirected means tested body redirections

def isWatched : Statement → Bool
  | .simple _ _ _ _ | .pipeline _ | .background _ | .subshell _ _ _ | .redirected _ _ _ => true
  | _ => false

def attendLimit : Nat := 1000

/-- Carries out a statement, and ends the shell if it is final, or has failed where that counts. -/
def carry (final tested : Bool) (statement : Statement) : Act Unit := do
  if ← Act.hasFlag 'n' then
    if final then throw (.ended false)
  else
    attend means attendLimit
    let result ← Act.attempt (dispatch means final tested statement)
    match result with
    | .ok () => attend means attendLimit
    | .error (.returned _) | .error (.left _ _) => pure ()
    | .error interruption => throw interruption
    let failed := (← Act.state).status ≠ 0
    let endsAtFailure ← Act.hasFlag 'e'
    if final || endsAtFailure && failed && !tested && isWatched statement then throw (.ended false)
    if let .error interruption := result then throw interruption

end Means

/-- Carries out a statement that is nested to some depth at most. Beyond it the shell breaks down. -/
def evaluate (launch : Launcher) : (depth : Nat) → (final tested : Bool) → Statement → Act Unit
  | 0, _, _, _ => throw (.killed breakdown)
  | depth + 1, final, tested, statement =>
    Means.carry ⟨launch, evaluate launch depth⟩ final tested statement
where
  /-- The signal that a program gets whose memory for nested calls is used up. -/
  breakdown : Nat := 11

end LineScript.Programs.Shell
