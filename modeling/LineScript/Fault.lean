import LineScript.Glob
import LineScript.Process
import LineScript.Script.Fault

/-!
# Faults of a run

A run ends at its first fault. A fault of the script's text is found before anything is executed;
the others arise while an instruction is executed, and none of those is a fault of the text.
-/

namespace LineScript

set_option autoImplicit false

inductive Attempt where
  | inspect
  | createFile
  | makeDirectory
  | remove
  | copyTo
  | moveTo
  | read
  | writeTo
  | appendTo
  | readScript
  deriving DecidableEq, Repr

def Attempt.phrase : Attempt → Text
  | .inspect => "stat".toList
  | .createFile => "create file".toList
  | .makeDirectory => "create folder".toList
  | .remove => "remove".toList
  | .copyTo => "copy to".toList
  | .moveTo => "move to".toList
  | .read => "read".toList
  | .writeTo => "write to".toList
  | .appendTo => "append to".toList
  | .readScript => "read script".toList

inductive DirectoryObstacle where
  | unreachable (error : HostError)
  | notDirectory
  deriving DecidableEq, Repr

def DirectoryObstacle.message : DirectoryObstacle → Text
  | .unreachable error => error.message
  | .notDirectory => "not a directory".toList

inductive CommandObstacle where
  | noWords
  | unstartable (error : HostError)
  | failed (status : ExitStatus) (errors : Text)
  deriving DecidableEq, Repr

/-- The wording of an obstacle. A failed process is described by its status and by what it wrote to
its error stream, unless that is blank. -/
def CommandObstacle.message : CommandObstacle → Text
  | .noWords => "empty command".toList
  | .unstartable error => error.message
  | .failed status errors =>
    match Text.trim errors with
    | [] => status.message
    | _ => status.message ++ ": ".toList ++ Text.trimEnd errors

inductive RunFault where
  | directory (path : Path) (obstacle : DirectoryObstacle)
  | notFound (path : Path)
  | alreadyExists (path : Path)
  | command (words : Text) (obstacle : CommandObstacle)
  | pattern (written : Text) (fault : Glob.Fault)
  | host (attempt : Attempt) (path : Path) (error : HostError)
  | outputFull
  deriving DecidableEq, Repr

def outputFullReason : Text := "sink full".toList

def RunFault.message : RunFault → Text
  | .directory path obstacle =>
    "unable to change directory to ".toList ++ path ++ ": ".toList ++ obstacle.message
  | .notFound path => "file/directory not found: ".toList ++ path
  | .alreadyExists path => "file/directory already exists with that name: ".toList ++ path
  | .command words obstacle =>
    "error running `".toList ++ words ++ "`: ".toList ++ obstacle.message
  | .pattern written fault =>
    "invalid search pattern `".toList ++ written ++ "`: ".toList ++ fault.message
  | .host attempt path error =>
    "unable to ".toList ++ attempt.phrase ++ " ".toList ++ path ++ ": ".toList ++ error.message
  | .outputFull => "unable to write output: ".toList ++ outputFullReason

/-- The wording of what caused a fault, for the faults that report a cause of their own. -/
def RunFault.cause? : RunFault → Option Text
  | .host _ _ error => some error.message
  | .outputFull => some outputFullReason
  | _ => none

inductive Fault where
  | script (fault : Script.Fault)
  | run (fault : RunFault)
  deriving DecidableEq, Repr

namespace Fault

def message : Fault → Text
  | .script fault => fault.message
  | .run fault => fault.message

def isScriptFault : Fault → Bool
  | .script _ => true
  | .run _ => false

def excerpt? : Fault → Option Text
  | .script fault => fault.excerpt?
  | .run _ => none

def cause? : Fault → Option Text
  | .script _ => none
  | .run fault => fault.cause?

end Fault

end LineScript
