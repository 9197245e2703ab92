import LineScript.Engine
import LineScript.Proofs.Engine.Actions

/-!
# Runs of several instructions

A run takes one instruction after another until one of them stops. The run of an accepted source is
the run of its instructions.
-/

namespace LineScript.Engine

set_option autoImplicit false

open LineScript.Action

theorem run_execute_all_cons (programs : Programs) (instruction : Instruction)
    (later : List Instruction) (machine : Machine) :
    (executeAll programs (instruction :: later)).run machine =
      match (execute programs instruction).run machine with
      | (.ok _, after) => (executeAll programs later).run after
      | (.error fault, after) => (.error fault, after) :=
  run_for_m_cons instruction later (execute programs) machine

theorem run_execute_all_append (programs : Programs) (first second : List Instruction)
    (machine : Machine) :
    (executeAll programs (first ++ second)).run machine =
      match (executeAll programs first).run machine with
      | (.ok _, middle) => (executeAll programs second).run middle
      | (.error fault, after) => (.error fault, after) :=
  run_for_m_append first second (execute programs) machine

theorem run_source_of_parse {source : Text} {instructions : List Instruction}
    (accepted : Script.parse source = .ok instructions) (programs : Programs) (machine : Machine) :
    runSource programs source machine =
      (((executeAll programs instructions).run machine).1.mapError .run,
        ((executeAll programs instructions).run machine).2) := by
  rw [runSource, accepted]
  rfl

end LineScript.Engine
