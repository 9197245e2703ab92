import LineScript.Instruction
import LineScript.Text.WhiteSpace
import LineScript.Token.Lexer

/-!
# Scripts

A script is validated as a whole before any of it is executed. Blank lines and lines whose first
character after white space is `#` say nothing; every other line has to make an instruction.
-/

namespace LineScript.Script

set_option autoImplicit false

def isSignificant (line : Text) : Bool :=
  match Text.trim line with
  | [] => false
  | first :: _ => first != '#'

def significantLines (source : Text) : List (Text × Nat) :=
  (numberedLines source).filter fun (line, _) => isSignificant line

def parseLine (source : Text) (line : Text) (number : Nat) : Except Fault Instruction :=
  Instruction.ofTokens source number (Token.scan (Text.trim line))

def parse (source : Text) : Except Fault (List Instruction) :=
  (significantLines source).mapM fun (line, number) => parseLine source line number

end LineScript.Script
