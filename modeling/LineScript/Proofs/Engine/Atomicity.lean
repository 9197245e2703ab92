import LineScript.Proofs.Engine.Each

/-!
# Stopping in the middle of an instruction

An instruction that stops leaves the session as it found it and has written nothing; only `each` has
written, for the entries it was done with. An instruction that is stopped by its own output leaves
the session that it leaves when the output takes everything.
-/

namespace LineScript.Engine

set_option autoImplicit false

open LineScript.Action

theorem each_or_single (operation : Operation) :
    (∃ group command, operation = .each group command) ∨
      ∀ group command, operation ≠ .each group command := by
  cases operation with
  | each group command => exact .inl ⟨group, command, rfl⟩
  | _ => exact .inr nofun

theorem perform_truncates (programs : Programs) (operation : Operation) :
    Truncates (perform programs operation) := by
  rcases each_or_single operation with ⟨group, command, rfl⟩ | single
  · exact run_each_truncates programs group command
  · exact (perform_settles programs single).truncates

theorem execute_truncates (programs : Programs) (instruction : Instruction) :
    Truncates (execute programs instruction) := by
  apply IsQuiet.bind_truncates (IsQuiet.report _)
  intro _
  exact Truncates.bind (perform_truncates programs instruction.operation)
    (fun _ => write_truncates _) fun _ => write_keeps_session _

/-- What an operation has written when a fault other than the output's stops it. -/
def WrittenWhenStopped (programs : Programs) (machine : Machine) (fault : RunFault)
    (written : List UInt8) : Operation → Prop
  | .each group command =>
    EachStopped programs machine (machine.session.group group) command fault written
  | _ => written = []

theorem perform_stopped {programs : Programs} {operation : Operation} {machine after : Machine}
    {fault : RunFault} (stopped : (perform programs operation).run machine = (.error fault, after))
    (other : fault ≠ .outputFull) :
    after.session = machine.session ∧ ∃ written, after.output = machine.output ++ written ∧
      WrittenWhenStopped programs machine fault written operation := by
  rcases each_or_single operation with ⟨group, command, rfl⟩ | single
  · have session_eq := run_each_keeps_session programs group command machine
    change (runEach programs group command).run machine = _ at stopped
    rw [stopped] at session_eq
    exact ⟨session_eq, run_each_stopped stopped other⟩
  · obtain ⟨session_eq, output_eq⟩ := (perform_settles programs single).is_atomic stopped other
    refine ⟨session_eq, [], ?_, ?_⟩
    · rw [output_eq, List.append_nil]
    · unfold WrittenWhenStopped
      split
      · rename_i group command
        exact absurd rfl (single group command)
      · rfl

theorem written_when_stopped_record_event (programs : Programs) (machine : Machine) (event : Event)
    (fault : RunFault) (written : List UInt8) (operation : Operation) :
    WrittenWhenStopped programs (machine.record (.event event)) fault written operation ↔
      WrittenWhenStopped programs machine fault written operation := by
  cases operation with
  | each group command => exact each_stopped_record_event programs machine event _ command fault written
  | _ => exact Iff.rfl

theorem execute_stopped {programs : Programs} {instruction : Instruction} {machine after : Machine}
    {fault : RunFault} (stopped : (execute programs instruction).run machine = (.error fault, after))
    (other : fault ≠ .outputFull) :
    after.session = machine.session ∧ ∃ written, after.output = machine.output ++ written ∧
      WrittenWhenStopped programs machine fault written instruction.operation := by
  rw [execute, run_bind, run_report] at stopped
  dsimp only at stopped
  rw [run_bind] at stopped
  rcases ran : (perform programs instruction.operation).run
    (machine.record (.event (.executing instruction.line instruction.display))) with
    ⟨early | answer, middle⟩
  · rw [ran] at stopped
    injection stopped with fault_eq same
    injection fault_eq with fault_eq
    rw [fault_eq, same] at ran
    obtain ⟨session_eq, written, output_eq, explained⟩ := perform_stopped ran other
    rw [Machine.output_record_event] at output_eq
    rw [written_when_stopped_record_event] at explained
    exact ⟨session_eq, written, output_eq, explained⟩
  · rw [ran] at stopped
    exact absurd (output_full_of_write stopped) other

/-- An instruction that stops, for whatever reason but its output, has left the session alone and has
written nothing but the texts of the entries that `each` was done with. An instruction that its
output stops leaves the session that it leaves when the output takes everything, if it succeeds then;
if it does not, the session is as before. -/
theorem execute_is_atomic (programs : Programs) (instruction : Instruction)
    (machine after : Machine) (fault : RunFault)
    (stopped : (execute programs instruction).run machine = (.error fault, after)) :
    (fault ≠ .outputFull →
      after.session = machine.session ∧ ∃ written, after.output = machine.output ++ written ∧
        WrittenWhenStopped programs machine fault written instruction.operation) ∧
    (fault = .outputFull →
      (∀ whole, (execute programs instruction).run (machine.withRoom none) = (.ok (), whole) →
        after.session = whole.session) ∧
      (∀ early whole,
        (execute programs instruction).run (machine.withRoom none) = (.error early, whole) →
        after.session = machine.session)) := by
  refine ⟨execute_stopped stopped, ?_⟩
  intro full
  subst full
  have truncates := execute_truncates programs instruction
  have session_eq := truncates.session_of_output_full stopped
  refine ⟨?_, ?_⟩
  · intro whole unlimited
    rw [session_eq, unlimited]
  · intro early whole unlimited
    have other : early ≠ .outputFull := by
      have never := (truncates machine 0).unlimited_ne_output_full
      rw [unlimited] at never
      intro same
      exact never (congrArg Except.error same)
    rw [session_eq, unlimited]
    exact (execute_stopped unlimited other).1

/-- Every process writes the same byte; the first succeeds and the second does not. -/
def onceSuccessful : Programs := fun started _ files => (.ok ⟨.exited started, [97], []⟩, files)

theorem execute_is_atomic_at_second_entry :
    ∃ after : Machine,
      (execute onceSuccessful ⟨1, .each ['g'] ⟨.word, ['p']⟩, []⟩).run
          (.start ⟨[], [(['g'], [['x'], ['y']])], ['/'], none⟩ ⟨[], []⟩ none) =
        (.error (.command ['p'] (.failed (.exited 1) [])), after) ∧
      after.session = ⟨[], [(['g'], [['x'], ['y']])], ['/'], none⟩ ∧ after.output = [97, 10] := by
  have stopped : (execute onceSuccessful ⟨1, .each ['g'] ⟨.word, ['p']⟩, []⟩).run
      (.start ⟨[], [(['g'], [['x'], ['y']])], ['/'], none⟩ ⟨[], []⟩ none) =
      (.error (.command ['p'] (.failed (.exited 1) [])), _) := Prod.ext rfl rfl
  obtain ⟨session_eq, -⟩ := (execute_is_atomic _ _ _ _ _ stopped).1 nofun
  exact ⟨_, stopped, session_eq, rfl⟩

end LineScript.Engine
