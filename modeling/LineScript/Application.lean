import LineScript.Application.Arguments
import LineScript.Engine

/-!
# The program

One invocation of the program: its arguments, the home directory and a file system go in; an exit
code, two byte streams and a file system come out. A run without the trace prints the output alone,
a run with it prints the same output with every event as a line in between.
-/

namespace LineScript.Application

set_option autoImplicit false

structure Report where
  code : Nat
  output : List UInt8
  errors : List UInt8
  files : FileSystem

def usage : Text := "Usage: scriptor [OPTIONS] [SCRIPT]\n".toList

def help : Text :=
  "Runs line-oriented automation scripts\n\n".toList ++ usage ++
    ("\nArguments:\n" ++
      "  [SCRIPT]  Script file to execute\n" ++
      "\nOptions:\n" ++
      "  -v             Print diagnostic trace lines to standard output\n" ++
      "  -h, --help     Print help\n" ++
      "  -V, --version  Print version\n").toList

def versionLine : Text := "scriptor ".toList ++ version ++ ['\n']

def misuseReport (misuse : Misuse) : Text :=
  "error: ".toList ++ misuse.message ++ "\n\n".toList ++ usage ++
    "\nFor more information, try '--help'.\n".toList

/-- What is said about a fault: the lines around it, if it shows them, what was being run, what went
wrong and, where that has a cause of its own, the cause once more. -/
def faultReport (script : Path) (fault : Fault) : Text :=
  (match fault.excerpt? with
    | some excerpt => excerpt ++ ['\n']
    | none => []) ++
  "Application error: running ".toList ++ script ++ ": ".toList ++ fault.message ++
  (match fault.cause? with
    | some cause => ": ".toList ++ cause
    | none => []) ++ ['\n']

def startMachine (home : Option Text) (files : FileSystem) : Machine :=
  Machine.start (Session.start files.workingDirectory.toPath home) files none

def runScript (programs : Programs) (home : Option Text) (files : FileSystem) (script : Path)
    (verbose : Bool) : Report :=
  let (result, machine) := Engine.runScript programs script (startMachine home files)
  let output := if verbose then machine.transcript.verbose else machine.output
  match result with
  | .ok () => ⟨0, output, [], machine.files⟩
  | .error fault => ⟨1, output, Utf8.encode (faultReport script fault), machine.files⟩

def run (programs : Programs) (arguments : List Text) (home : Option Text) (files : FileSystem) :
    Report :=
  match Invocation.ofArguments arguments with
  | .error misuse => ⟨2, [], Utf8.encode (misuseReport misuse), files⟩
  | .ok .help => ⟨0, Utf8.encode help, [], files⟩
  | .ok .version => ⟨0, Utf8.encode versionLine, [], files⟩
  | .ok (.run script verbose) => runScript programs home files script verbose

end LineScript.Application
