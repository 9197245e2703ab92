import LineScript.Command
import LineScript.FileSystem.Basic

/-!
# Processes

Starting a program is asked of the outside: given a command, a working directory and the file system,
it is refused, or it runs to its end and leaves a status, two byte streams and a file system. What
programs do is a parameter of everything that starts them. It may also depend on how many processes
were started before, so a program need not answer the same request twice in the same way.
-/

namespace LineScript

set_option autoImplicit false

structure Launch where
  command : Command
  directory : Path
  deriving DecidableEq

inductive ExitStatus where
  | exited (code : Nat)
  | killed (signal : Nat)
  deriving DecidableEq, Repr

namespace ExitStatus

/-- The names of the signals from one on, those aside that have only a number. -/
def signalNames : List String :=
  ["SIGHUP", "SIGINT", "SIGQUIT", "SIGILL", "SIGTRAP", "SIGABRT", "SIGBUS", "SIGFPE", "SIGKILL",
    "SIGUSR1", "SIGSEGV", "SIGUSR2", "SIGPIPE", "SIGALRM", "SIGTERM", "SIGSTKFLT", "SIGCHLD",
    "SIGCONT", "SIGSTOP", "SIGTSTP", "SIGTTIN", "SIGTTOU", "SIGURG", "SIGXCPU", "SIGXFSZ",
    "SIGVTALRM", "SIGPROF", "SIGWINCH", "SIGIO", "SIGPWR", "SIGSYS"]

def isSuccess : ExitStatus → Bool
  | .exited code => code == 0
  | .killed _ => false

def message : ExitStatus → Text
  | .exited code => "exit status: ".toList ++ Text.decimal code
  | .killed signal =>
    "signal: ".toList ++ Text.decimal signal ++
      match signal, signalNames[signal - 1]? with
      | 0, _ | _, none => []
      | _, some name => " (".toList ++ name.toList ++ ")".toList

end ExitStatus

/-- What a process that ended leaves behind, besides its changes to the file system. -/
structure Completion where
  status : ExitStatus
  output : List UInt8
  errors : List UInt8

/-- What programs do: the answer to a launch, and the file system after it. The number counts the
processes started before. -/
abbrev Programs := Nat → Launch → FileSystem → Except HostError Completion × FileSystem

end LineScript
