import LineScript.Operation

/-!
# Faults found in a script's text

A line is rejected because it does not begin with a keyword, because it has too few parameters, or
because a parameter that has to be a group is something else. Each fault carries its line number.
-/

namespace LineScript.Script

set_option autoImplicit false

inductive Fault where
  | unknownOperation (name : Text) (line : Nat) (excerpt : Text)
  | missingParameters (keyword : Keyword) (line required supplied : Nat) (excerpt : Text)
  | groupExpected (keyword : Keyword) (line : Nat) (found : Text)
  deriving DecidableEq, Repr

namespace Fault

def line : Fault → Nat
  | .unknownOperation _ line _ => line
  | .missingParameters _ line .. => line
  | .groupExpected _ line _ => line

def excerpt? : Fault → Option Text
  | .unknownOperation _ _ excerpt => some excerpt
  | .missingParameters _ _ _ _ excerpt => some excerpt
  | .groupExpected .. => none

def message : Fault → Text
  | .unknownOperation name line _ =>
    "line ".toList ++ Text.decimal line ++ ": bad method name `".toList ++ name ++ "`".toList
  | .missingParameters keyword line required supplied _ =>
    "line ".toList ++ Text.decimal line ++ ": `".toList ++ keyword.name ++ "` requires ".toList ++
      Text.decimal required ++ " parameters, ".toList ++ Text.decimal supplied ++
      " supplied".toList
  | .groupExpected keyword line found =>
    "line ".toList ++ Text.decimal line ++ ": `".toList ++ keyword.name ++
      "` needs a group variable ([]name), found `".toList ++ found ++ "`".toList

end Fault

end LineScript.Script
