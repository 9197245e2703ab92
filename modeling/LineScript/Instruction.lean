import LineScript.Script.Excerpt
import LineScript.Script.Fault

/-!
# Instructions

An instruction is a script line after validation: its number, its operation and the tokens that
followed the keyword. It is written as the keyword and those tokens with single blanks between.
-/

namespace LineScript

set_option autoImplicit false

structure Instruction where
  line : Nat
  operation : Operation
  parameters : List Token
  deriving DecidableEq, Repr

namespace Instruction

def display (instruction : Instruction) : Text :=
  instruction.operation.keyword.name ++
    instruction.parameters.flatMap fun parameter => ' ' :: parameter.text

/-- The text in the place of the keyword; empty when there is no token. -/
def leadingName : List Token → Text
  | [] => []
  | first :: _ => first.text

def ofTokens (source : Text) (line : Nat) (tokens : List Token) :
    Except Script.Fault Instruction :=
  match Keyword.ofName? (leadingName tokens) with
  | none => .error (.unknownOperation (leadingName tokens) line (Script.excerpt source line))
  | some keyword =>
    match Operation.ofParameters keyword tokens.tail with
    | .ok operation => .ok ⟨line, operation, tokens.tail⟩
    | .error .tooFew =>
      .error (.missingParameters keyword line keyword.requiredParameters (tokens.length - 1)
        (Script.excerpt source line))
    | .error (.notGroup found) => .error (.groupExpected keyword line found.text)

end Instruction

end LineScript
