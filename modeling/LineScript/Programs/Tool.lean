import LineScript.Programs.Cat
import LineScript.Programs.Cp
import LineScript.Programs.Echo
import LineScript.Programs.Ls
import LineScript.Programs.Mkdir
import LineScript.Programs.Printf
import LineScript.Programs.Pwd
import LineScript.Programs.Shell.Program
import LineScript.Programs.Test

/-!
# Tools

The programs that are installed. The content of an installed file tells which tool it is, so a copy
of it under another name is the same tool.
-/

namespace LineScript.Programs

set_option autoImplicit false

inductive Tool where
  | bracket
  | cat
  | cp
  | echo
  | fail
  | ls
  | mkdir
  | printf
  | pwd
  | sh
  | succeed
  | test
  deriving DecidableEq, Repr

namespace Tool

def all : List Tool :=
  [.bracket, .cat, .cp, .echo, .fail, .ls, .mkdir, .printf, .pwd, .sh, .succeed, .test]

def name : Tool → String
  | .bracket => "["
  | .cat => "cat"
  | .cp => "cp"
  | .echo => "echo"
  | .fail => "false"
  | .ls => "ls"
  | .mkdir => "mkdir"
  | .printf => "printf"
  | .pwd => "pwd"
  | .sh => "sh"
  | .succeed => "true"
  | .test => "test"

def image (tool : Tool) : List UInt8 :=
  [0x7F, 0x45, 0x4C, 0x46, 0x02, 0x01, 0x01, 0x00] ++ Utf8.encode tool.name.toList

def ofImage? (content : List UInt8) : Option Tool := all.find? (·.image == content)

def program (launch : Launcher) : Tool → Program
  | .bracket => Test.program true
  | .cat => Cat.program
  | .cp => Cp.program
  | .echo => Echo.program
  | .fail => return .exited 1
  | .ls => Ls.program
  | .mkdir => Mkdir.program
  | .printf => Printf.program
  | .pwd => Pwd.program
  | .sh => Shell.Program.program launch
  | .succeed => return .exited 0
  | .test => Test.program false

end Tool

end LineScript.Programs
