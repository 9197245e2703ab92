import LineScript.Programs.Shell.Builtin
import LineScript.Programs.Shell.Signal

/-!
# Commands on processes

`kill`, `trap`, `wait`, `jobs`, `fg`, `bg` and `times`. A shell that is inside of another one passes the
signals for that one on.
-/

namespace LineScript.Programs.Shell.Processes

set_option autoImplicit false

def unstoppable : List Nat := [9, 19]

def receive (signal : Nat) : Act Unit := do
  let trap? := (← Act.state).traps.get? signal
  match if unstoppable.contains signal then none else trap? with
  | some [] => return ()
  | some _ =>
    Act.change fun state =>
      if state.pendingSignals.contains signal then state
      else { state with pendingSignals := signal :: state.pendingSignals }
  | none => if !Signal.ignored.contains signal then throw (.killed signal)

def sendToShell (signal : Nat) : Act Unit := do
  if signal ≠ 0 then
    if (← Act.state).outermost then receive signal
    else
      Act.change fun state => { state with sentSignals := state.sentSignals ++ [signal] }

def standardSignal : Nat := 15

def jobOf (written? : Option Text) : Act (Nat × Job) := do
  let jobs := (← Act.state).jobs
  let refuse {α : Type} : Act α := Act.fail ["No such job".toList, written?.getD []]
  let choose {α : Type} (wording : String) (job? : Option α) : Act α := do
    match job? with
    | some job => return job
    | none => Act.fail [wording.toList]
  match written? with
  | none | some ['%'] | some ['%', '+'] | some ['%', '%'] => choose "No current job" jobs.head?
  | some ['%', '-'] => choose "No previous job" jobs.tail.head?
  | some ('%' :: rest) =>
    if rest.all Char.isDigit then
      let number := Numeral.numberOf 10 (Numeral.leadingDigits 10 rest.length rest)
      match jobs.find? (·.1 == number) with
      | some job => return job
      | none => refuse
    else refuse
  | some _ => refuse

def signalTo (signal : Nat) (written : Text) : Act Bool := do
  if written.head? == some '%' then
    let _ ← jobOf (some written)
    return true
  else
    let isGroup := written.head? == some '-'
    let number ← Act.naturalOf (if isGroup then written.tail else written)
    let state ← Act.state
    if number = state.number && !isGroup then
      sendToShell signal
      return true
    else if state.jobs.any (·.2.process == number) then return true
    else
      Act.complain ["No such process\n".toList]
      return false

def refuseUse {α : Type} : Act α :=
  Act.fail
    [("Usage: kill [-s sigspec | -signum | -sigspec] [pid | job]... or\n" ++
      "kill -l [exitstatus]").toList]

def listSignals : List Text → Act Nat
  | [] => do
    Act.printLine ['0']
    ((List.range Signal.limit).drop 1).forM fun signal => Act.printLine (Signal.name signal)
    return 0
  | written :: _ => do
    let status ← Act.naturalOf written
    let signal := if 128 < status then status - 128 else status
    if 0 < signal && signal < Signal.limit then
      Act.printLine (Signal.name signal)
      return 0
    else Act.fail ["invalid signal number or exit status".toList, written]

def kill (arguments : List Text) : Act Nat := do
  let (lists, signal?, operands) ← match arguments with
    | [] => refuseUse
    | first :: rest =>
      match if first.head? == some '-' then Signal.ofText? 1 first.tail else none with
      | some signal => pure (false, some signal, rest)
      | none =>
        let (options, operands) ← Builtin.options "l" "s" arguments
        let named? := (options.filter (·.1 == 's')).getLast?
        let signal? ← match named? with
          | none => pure none
          | some (_, name) =>
            match Signal.ofText? 1 name with
            | some signal => pure (some signal)
            | none => Act.fail ["invalid signal number or name".toList, name]
        pure (options.any (·.1 == 'l'), signal?, operands)
  if lists then if signal?.isSome then refuseUse else listSignals operands
  else if operands.isEmpty then refuseUse
  else
    let found ← operands.mapM (signalTo (signal?.getD standardSignal))
    return if found.all id then 0 else 1

def listTraps : Act Unit := do
  let traps := (← Act.state).traps
  (List.range Signal.limit).forM fun signal => do
    if let some action := traps.get? signal then
      Act.printLine
        ("trap -- ".toList ++ Builtin.singleQuoted action ++ ' ' :: Signal.name signal)

/-- Sets the traps of signals one by one, or takes them back, until one is no signal. -/
def setTraps (action? : Option Text) : List Text → Act Nat
  | [] => return 0
  | written :: rest => do
    match Signal.ofText? 0 written with
    | none =>
      let _ ← Act.writeDescriptor errorDescriptor
        ("trap: ".toList ++ written ++ ": bad trap\n".toList)
      return 1
    | some signal =>
      Act.change fun state =>
        { state with
          traps :=
            match action? with
            | some action => state.traps.insert signal action
            | none => state.traps.erase signal }
      setTraps action? rest

def trap (arguments : List Text) : Act Nat := do
  let (_, operands) ← Builtin.options "" "" arguments
  match operands with
  | [] =>
    listTraps
    return 0
  | [signal] => setTraps none [signal]
  | action :: signals =>
    if !action.isEmpty && action.all Char.isDigit && (Signal.ofText? 0 action).isSome then
      setTraps none operands
    else setTraps (if action = ['-'] then none else some action) signals

/-- Waits for jobs, all of which have ended. The status is that of the last one. -/
def wait (arguments : List Text) : Act Nat := do
  let (_, operands) ← Builtin.options "" "" arguments
  let await (slot : Nat) : Act Unit :=
    Act.change fun state =>
      { state with
        jobs := state.jobs.map fun (number, job) =>
          (number, { job with awaited := job.awaited || number == slot }) }
  if operands.isEmpty then
    Act.change fun state =>
      { state with jobs := state.jobs.map fun (number, job) => (number, { job with awaited := true }) }
    return 0
  else
    let statuses ← operands.mapM fun written => do
      if written.head? == some '%' then
        let (slot, job) ← jobOf (some written)
        await slot
        return Act.codeOf job.status
      else
        let number ← Act.naturalOf written
        match (← Act.state).jobs.find? (·.2.process == number) with
        | some (slot, job) =>
          await slot
          return Act.codeOf job.status
        | none => return 127
    return statuses.getLastD 0

def ending : ExitStatus → Text
  | .exited 0 => "Done".toList
  | .exited code => "Done(".toList ++ Text.decimal code ++ [')']
  | .killed 2 => "Interrupt".toList
  | .killed 13 => "Broken pipe".toList
  | .killed signal => (Signal.notice? signal).getD []

def jobColumns : Nat := 33

def jobs (arguments : List Text) : Act Nat := do
  let _ ← Builtin.options "lp" "" arguments
  let jobs := (← Act.state).jobs
  (jobs.zipIdx).forM fun ((number, job), place) => do
    let mark := if place = 0 then '+' else if place = 1 then '-' else ' '
    let line := '[' :: Text.decimal number ++ "] ".toList ++ mark :: ' ' :: ending job.status
    Act.printLine (line ++ List.replicate (max 1 (jobColumns - line.length)) ' ')
  Act.change fun state => { state with jobs := [] }
  return 0

def resume (arguments : List Text) : Act Nat := do
  let (_, operands) ← Builtin.options "" "" arguments
  let _ ← jobOf operands.head?
  Act.fail
    ["job ".toList ++ operands.headD "(null)".toList ++ " not created under job control".toList]

def times : Act Nat := do
  let line := "0m0.000000s 0m0.000000s".toList
  Act.printLine line
  Act.printLine line
  return 0

end LineScript.Programs.Shell.Processes
