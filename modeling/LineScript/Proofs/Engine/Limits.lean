import Mathlib
import LineScript.Proofs.Engine.Atomicity
import LineScript.Proofs.Engine.Runs

/-!
# Runs into an output with a limit

A run into an output with room for some bytes is the run into an output without a limit as long as
that writes no more. Otherwise it ends at the instruction whose output does not fit: what fits is
written, and the session is the one that the other run has after that instruction.
-/

namespace LineScript.Engine

set_option autoImplicit false

open LineScript.Action

variable {programs : Programs} {machine : Machine} {room : Nat}

/-- How a run ends at an instruction whose output does not fit. The instructions before it are executed
as if there were no limit, it changes the session as if there were none, and none after it is begun. -/
def EndsAtLimit (programs : Programs) (instructions : List Instruction) (machine : Machine)
    (room : Nat) (cut : Machine) : Prop :=
  ∃ earlier instruction later middle left, instructions = earlier ++ instruction :: later ∧
    (executeAll programs earlier).run (machine.withRoom none) = (.ok (), middle) ∧
    (executeAll programs earlier).run (machine.withRoom (some room)) =
      (.ok (), middle.withRoom (some left)) ∧
    (execute programs instruction).run (middle.withRoom (some left)) = (.error .outputFull, cut) ∧
    cut.session = ((execute programs instruction).run middle).2.session

theorem EndsAtLimit.cons {instruction : Instruction} {later : List Instruction}
    {after cut : Machine} {left : Nat}
    (whole : (execute programs instruction).run (machine.withRoom none) = (.ok (), after))
    (limited : (execute programs instruction).run (machine.withRoom (some room)) =
      (.ok (), after.withRoom (some left)))
    (unlimited : after.withRoom none = after) (ends : EndsAtLimit programs later after left cut) :
    EndsAtLimit programs (instruction :: later) machine room cut := by
  obtain ⟨earlier, stopping, rest, middle, last, split_eq, before, beforeLimited, stopped⟩ := ends
  refine ⟨instruction :: earlier, stopping, rest, middle, last, ?_, ?_, ?_, stopped⟩
  · rw [split_eq, List.cons_append]
  · rw [run_execute_all_cons, whole, ← before, unlimited]
  · rw [run_execute_all_cons, limited, ← beforeLimited]

theorem execute_all_limited (programs : Programs) (instructions : List Instruction)
    (machine : Machine) (room : Nat) :
    ∃ written,
      ((executeAll programs instructions).run (machine.withRoom none)).2.output =
        machine.output ++ written ∧
      (written.length ≤ room →
        (executeAll programs instructions).run (machine.withRoom (some room)) =
          (((executeAll programs instructions).run (machine.withRoom none)).1,
            ((executeAll programs instructions).run (machine.withRoom none)).2.withRoom
              (some (room - written.length)))) ∧
      (room < written.length →
        ∃ cut, (executeAll programs instructions).run (machine.withRoom (some room)) =
            (.error .outputFull, cut) ∧
          cut.output = machine.output ++ written.take room ∧
          EndsAtLimit programs instructions machine room cut) := by
  induction instructions generalizing machine room with
  | nil =>
    refine ⟨[], (List.append_nil _).symm, fun _ => rfl, ?_⟩
    intro full
    exact absurd full (Nat.not_lt_zero room)
  | cons instruction later ih =>
    have truncated := execute_truncates programs instruction machine room
    rw [run_execute_all_cons, run_execute_all_cons]
    rcases whole : (execute programs instruction).run (machine.withRoom none) with ⟨result, after⟩
    rcases limited : (execute programs instruction).run (machine.withRoom (some room)) with
      ⟨limitedResult, stop⟩
    rw [whole, limited] at truncated
    have already : after.withRoom none = after := by
      rw [← truncated.unlimited_room, Machine.with_room_self]
    cases truncated with
    | fits written fits other unlimited output_eq =>
      cases result with
      | error fault =>
        refine ⟨written, output_eq, fun _ => rfl, ?_⟩
        intro full
        exact absurd fits (Nat.not_le_of_lt full)
      | ok answer =>
        obtain ⟨more, more_eq, rest_fits, rest_full⟩ := ih after (room - written.length)
        rw [already] at more_eq rest_fits
        refine ⟨written ++ more, ?_, ?_, ?_⟩
        · dsimp only
          rw [more_eq, output_eq, List.append_assoc]
        · intro all
          rw [List.length_append] at all ⊢
          dsimp only
          rw [rest_fits (by omega), Nat.sub_sub]
        · intro full
          rw [List.length_append] at full
          obtain ⟨cut, cut_eq, cut_output_eq, ends⟩ := rest_full (by omega)
          refine ⟨cut, cut_eq, ?_, ends.cons whole limited already⟩
          rw [cut_output_eq, output_eq, List.append_assoc, List.take_append,
            List.take_of_length_le fits]
    | full written full other unlimited output_eq cut_output_eq session_eq =>
      have ends : EndsAtLimit programs (instruction :: later) machine room stop := by
        refine ⟨[], instruction, later, machine.withRoom none, room, rfl, rfl, rfl, limited, ?_⟩
        rw [session_eq, whole]
      cases result with
      | error fault =>
        refine ⟨written, output_eq, ?_, fun _ => ⟨stop, rfl, cut_output_eq, ends⟩⟩
        intro fits
        exact absurd full (Nat.not_lt_of_le fits)
      | ok answer =>
        -- The run without a limit goes on and only adds to what was written.
        obtain ⟨more, more_eq, -⟩ := ih after 0
        rw [already] at more_eq
        refine ⟨written ++ more, ?_, ?_, ?_⟩
        · dsimp only
          rw [more_eq, output_eq, List.append_assoc]
        · intro fits
          rw [List.length_append] at fits
          omega
        · intro _
          refine ⟨stop, rfl, ?_, ends⟩
          rw [cut_output_eq, List.take_append_of_le_length (Nat.le_of_lt full)]

/-- A limit of the output truncates a run. If the run of a source into an output without a limit
writes no more than there is room for, the run with the limit has the same result, output, session and
file system. Otherwise it is stopped by its output, has written the bytes there was room for, and ends
at an instruction with the session that the other run has after that instruction. -/
theorem limited_output_truncates {source : Text} {instructions : List Instruction}
    (accepted : Script.parse source = .ok instructions) (programs : Programs) (machine : Machine)
    (room : Nat) :
    let whole := runSource programs source (machine.withRoom none)
    let limited := runSource programs source (machine.withRoom (some room))
    ∃ written, whole.2.output = machine.output ++ written ∧
      (written.length ≤ room →
        limited.1 = whole.1 ∧ limited.2.output = whole.2.output ∧
          limited.2.session = whole.2.session ∧ limited.2.files = whole.2.files) ∧
      (room < written.length →
        limited.1 = .error (.run .outputFull) ∧
          limited.2.output = machine.output ++ written.take room ∧
          EndsAtLimit programs instructions machine room limited.2) := by
  obtain ⟨written, output_eq, fits, full⟩ := execute_all_limited programs instructions machine room
  dsimp only
  rw [run_source_of_parse accepted, run_source_of_parse accepted]
  refine ⟨written, output_eq, ?_, ?_⟩
  · intro enough
    rw [fits enough]
    exact ⟨rfl, rfl, rfl, rfl⟩
  · intro short
    obtain ⟨cut, cut_eq, cut_output_eq, ends⟩ := full short
    rw [cut_eq]
    exact ⟨rfl, cut_output_eq, ends⟩

/-- Room for two bytes cuts the run of `set x é` and `echo $x` in the middle of a character. -/
theorem limited_output_truncates_inside_character :
    ∃ instructions, Script.parse "set x é\necho $x".toList = .ok instructions ∧
      let limited := runSource onceSuccessful "set x é\necho $x".toList
        (.start (.start ['/'] none) ⟨[], []⟩ (some 2))
      limited.1 = .error (.run .outputFull) ∧ limited.2.output = [10, 0xC3] := by
  have accepted : Script.parse "set x é\necho $x".toList =
      .ok [⟨1, .set ['x'] ⟨.word, ['é']⟩, [⟨.word, ['x']⟩, ⟨.word, ['é']⟩]⟩,
        ⟨2, .echo [⟨.variable, ['$', 'x']⟩], [⟨.variable, ['$', 'x']⟩]⟩] := by
    cbv
  obtain ⟨written, whole_eq, -, full⟩ := limited_output_truncates accepted onceSuccessful
    (.start (.start ['/'] none) ⟨[], []⟩ none) 2
  rw [run_source_of_parse accepted] at whole_eq
  have written_eq : [10, 0xC3, 0xA9, 10, 10] = written := whole_eq
  subst written_eq
  obtain ⟨result_eq, output_eq, -⟩ := full (by decide)
  exact ⟨_, accepted, result_eq, output_eq⟩

end LineScript.Engine
