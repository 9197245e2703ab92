import LineScript.Process

/-!
# Signals of the shell

The names of signals as a shell writes and reads them, and what it says about a process that one of them
ended.
-/

namespace LineScript.Programs.Shell.Signal

set_option autoImplicit false

def limit : Nat := 65

/-- The number of the first signal that has a meaning by its place among others only. -/
def firstNumbered : Nat := 34

def nameless : Nat := 16

def name (signal : Nat) : Text :=
  if signal = 0 then "EXIT".toList
  else if signal = nameless then Text.decimal signal
  else
    match ExitStatus.signalNames[signal - 1]? with
    | some name => (name.drop 3).toString.toList
    | none =>
      let place := signal - firstNumbered
      let last := limit - 1 - firstNumbered
      if signal < firstNumbered then Text.decimal signal
      else if place = 0 then "RTMIN".toList
      else if place = last then "RTMAX".toList
      else if place ≤ last / 2 then "RTMIN+".toList ++ Text.decimal place
      else "RTMAX-".toList ++ Text.decimal (last - place)

def ofText? (least : Nat) (text : Text) : Option Nat :=
  if !text.isEmpty && text.all Char.isDigit then
    let number := text.foldl (fun n c => n * 10 + (c.toNat - '0'.toNat)) 0
    if number < limit then some number else none
  else
    let upper := text.map Char.toUpper
    ((List.range limit).drop least).find? fun signal => name signal == upper

/-- What happened to a process that a signal ended, for the signals that end processes. -/
def notices : List (Nat × String) :=
  [(1, "Hangup"), (3, "Quit"), (4, "Illegal instruction"), (5, "Trace/breakpoint trap"),
    (6, "Aborted"), (7, "Bus error"), (8, "Floating point exception"), (9, "Killed"),
    (10, "User defined signal 1"), (11, "Segmentation fault"), (12, "User defined signal 2"),
    (14, "Alarm clock"), (15, "Terminated"), (16, "Stack fault"), (24, "CPU time limit exceeded"),
    (25, "File size limit exceeded"), (26, "Virtual timer expired"),
    (27, "Profiling timer expired"), (29, "I/O possible"), (30, "Power failure"),
    (31, "Bad system call")]

/-- What is said about a process that a signal ended. Nothing is said about an interrupt and about a
pipe that nobody reads. -/
def notice? (signal : Nat) : Option Text :=
  match notices.lookup signal with
  | some notice => some notice.toList
  | none =>
    if firstNumbered ≤ signal then
      some ("Real-time signal ".toList ++ Text.decimal (signal - firstNumbered))
    else none

def ignored : List Nat := [17, 18, 23, 28]

end LineScript.Programs.Shell.Signal
