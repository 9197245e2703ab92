import LineScript.Proofs.Engine.History

/-!
# Instructions one by one

Instructions can be executed in order whatever becomes of each, as someone at a prompt does. A script
executes some of its first instructions in this way, and all of them if it succeeds.
-/

namespace LineScript.Engine

set_option autoImplicit false

open LineScript.Action

namespace Step

def result (programs : Programs) (step : Step) : Except RunFault Unit :=
  ((execute programs step.instruction).run step.machine).1

/-- The machine that a step leaves. -/
def after (programs : Programs) (step : Step) : Machine :=
  ((execute programs step.instruction).run step.machine).2

end Step

/-- The steps of instructions that are executed in order, whatever becomes of each. -/
def steps (programs : Programs) : List Instruction → Machine → List Step
  | [], _ => []
  | instruction :: later, machine =>
    ⟨machine, instruction⟩ :: steps programs later (Step.after programs ⟨machine, instruction⟩)

def machineAfter (programs : Programs) : List Instruction → Machine → Machine
  | [], machine => machine
  | instruction :: later, machine =>
    machineAfter programs later (Step.after programs ⟨machine, instruction⟩)

/-- A run of a script leaves what its first instructions leave, executed one by one; if it succeeds,
these are all of them, and each has succeeded. -/
theorem exists_executed (programs : Programs) (instructions : List Instruction) (machine : Machine) :
    ∃ executed rest, instructions = executed ++ rest ∧
      ((executeAll programs instructions).run machine).2 = machineAfter programs executed machine ∧
      (((executeAll programs instructions).run machine).1 = .ok () →
        rest = [] ∧ ∀ step ∈ steps programs executed machine, step.result programs = .ok ()) := by
  induction instructions generalizing machine with
  | nil => exact ⟨[], [], rfl, rfl, fun _ => ⟨rfl, nofun⟩⟩
  | cons instruction later ih =>
    rw [run_execute_all_cons]
    rcases ran : (execute programs instruction).run machine with ⟨fault | answer, middle⟩
    · have after_eq : Step.after programs ⟨machine, instruction⟩ = middle := by
        rw [Step.after, ran]
      exact ⟨[instruction], later, rfl, after_eq.symm, nofun⟩
    · have after_eq : Step.after programs ⟨machine, instruction⟩ = middle := by
        rw [Step.after, ran]
      have succeeds : Step.result programs ⟨machine, instruction⟩ = .ok () := by
        rw [Step.result, ran]
      obtain ⟨executed, rest, rfl, reached, all⟩ := ih middle
      refine ⟨instruction :: executed, rest, rfl, ?_, ?_⟩
      · rw [machineAfter, after_eq]
        exact reached
      · intro success
        obtain ⟨done, others⟩ := all success
        refine ⟨done, ?_⟩
        rw [steps, List.forall_mem_cons, after_eq]
        exact ⟨succeeds, others⟩

theorem machine_after_invariant {programs : Programs} {invariant : Machine → Prop}
    {instructions : List Instruction} {machine : Machine} (start : invariant machine)
    (kept : ∀ step ∈ steps programs instructions machine, invariant step.machine →
      invariant (step.after programs)) :
    invariant (machineAfter programs instructions machine) := by
  induction instructions generalizing machine with
  | nil => exact start
  | cons instruction later ih =>
    rw [steps, List.forall_mem_cons] at kept
    exact ih (kept.1 start) kept.2

end LineScript.Engine
