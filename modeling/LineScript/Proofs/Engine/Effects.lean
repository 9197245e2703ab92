import LineScript.Proofs.Engine.Commands

/-!
# Requests, output and files of a run

What an action does to the world outside the session: the requests it makes to the host, the bytes it
writes and the file system it leaves. An output with little room stops an action at the first byte that
does not fit, and then only the first of its requests have been made. An instruction is announced and
performed, and a success is followed by a blank line.
-/

namespace LineScript

set_option autoImplicit false

namespace Machine

/-- The output has room for these bytes. -/
def Takes (machine : Machine) (bytes : List UInt8) : Prop :=
  ∀ room ∈ machine.room, bytes.length ≤ room

/-- From one machine to another these requests are made and these bytes written, with the given file
system at the end and the session as it was. -/
structure Advances (before : Machine) (calls : List Call) (written : List UInt8) (files : FileSystem)
    (after : Machine) : Prop where
  session_eq : after.session = before.session
  files_eq : after.files = files
  calls_eq : after.transcript.calls = before.transcript.calls ++ calls
  output_eq : after.output = before.output ++ written
  room_eq : after.room = before.room.map (· - written.length)

variable {before middle after : Machine} {calls more : List Call} {written later : List UInt8}
  {files last : FileSystem}

theorem Advances.trans (first : before.Advances calls written files middle)
    (second : middle.Advances more later last after) :
    before.Advances (calls ++ more) (written ++ later) last after := by
  have rooms : ∀ room : Option Nat, (room.map (· - written.length)).map (· - later.length) =
      room.map (· - (written ++ later).length) := by
    intro room
    cases room with
    | none => rfl
    | some room => simp [Nat.sub_sub]
  refine ⟨?_, second.files_eq, ?_, ?_, ?_⟩
  · rw [second.session_eq, first.session_eq]
  · rw [second.calls_eq, first.calls_eq, List.append_assoc]
  · rw [second.output_eq, first.output_eq, List.append_assoc]
  · rw [second.room_eq, first.room_eq, rooms]

/-- The room for two portions of bytes is room for the one, and for the other after it. -/
theorem Advances.takes_append_iff (advances : before.Advances calls written files middle) :
    before.Takes (written ++ later) ↔ before.Takes written ∧ middle.Takes later := by
  unfold Takes
  rw [advances.room_eq]
  cases before.room with
  | none => simp
  | some room =>
      simp only [Option.mem_def, Option.map_some, Option.some.injEq, forall_eq', List.length_append]
      omega

theorem Advances.launches_eq (advances : before.Advances calls written files after) :
    after.transcript.launches = before.transcript.launches + calls.countP Call.isLaunch := by
  rw [Transcript.launches, advances.calls_eq, List.countP_append, Transcript.launches]

theorem map_sub_zero (room : Option Nat) : room.map (· - ([] : List UInt8).length) = room := by
  cases room <;> rfl

theorem Advances.refl (machine : Machine) : machine.Advances [] [] machine.files machine where
  session_eq := rfl
  files_eq := rfl
  calls_eq := (List.append_nil _).symm
  output_eq := (List.append_nil _).symm
  room_eq := (map_sub_zero _).symm

theorem advances_record_events (machine : Machine) (events : List Event) :
    machine.Advances [] [] machine.files (machine.recordEvents events) where
  session_eq := machine.session_record_events events
  files_eq := machine.files_record_events events
  calls_eq := by simp
  output_eq := by simp
  room_eq := by rw [map_sub_zero, room_record_events]

theorem advances_after_launch (machine : Machine) (command : Command) (files : FileSystem) :
    machine.Advances [.launch ⟨command, machine.session.directory⟩] [] files
      (Engine.afterLaunch machine command files) where
  session_eq := rfl
  files_eq := rfl
  calls_eq := by
    change (Machine.transcript ((machine.record _).record _)).calls = _
    rw [calls_record_call, calls_record_event]
  output_eq := by simp
  room_eq := by
    rw [map_sub_zero]
    rfl

end Machine

namespace Action

variable {α : Type}

/-- What a run of an action comes to: its result with the requests, the bytes and the file system, if
the output has room for the bytes; otherwise it is stopped by the output. -/
structure Does (action : Action Unit) (before : Machine) (calls : List Call) (written : List UInt8)
    (result : Except RunFault Unit) (files : FileSystem) : Prop where
  fits : before.Takes written → ∃ after, action.run before = (result, after) ∧
    before.Advances calls written files after
  full : ¬ before.Takes written → ∃ cut reached, action.run before = (.error .outputFull, cut) ∧
    reached <+: calls ∧ cut.transcript.calls = before.transcript.calls ++ reached

variable {before middle : Machine} {calls more : List Call} {written later : List UInt8}
  {files last : FileSystem} {result : Except RunFault Unit}

theorem Does.write (text : Text) (machine : Machine) :
    (Action.write text).Does machine [] (Utf8.encode text) (.ok ()) machine.files := by
  rw [Action.write]
  cases room_eq : machine.room with
  | none =>
      have ran : (writeBytes (Utf8.encode text)).run machine =
          (.ok (), machine.record (.output (Utf8.encode text))) := by
        rw [run_write_bytes, room_eq]
      refine ⟨fun _ => ⟨_, ran, rfl, rfl, ?_, ?_, ?_⟩, ?_⟩
      · simp
      · simp
      · simp [Machine.record, room_eq]
      · intro refused
        simp [Machine.Takes, room_eq] at refused
  | some room =>
      have ran := run_write_bytes (Utf8.encode text) machine
      rw [room_eq] at ran
      dsimp only at ran
      have calls_eq := machine.calls_record_output ((Utf8.encode text).take room)
      have output_eq := machine.output_record_output ((Utf8.encode text).take room)
      constructor
      · intro takes
        have enough : (Utf8.encode text).length ≤ room := takes room room_eq
        have short : ¬ room < (Utf8.encode text).length := Nat.not_lt_of_le enough
        rw [List.take_of_length_le enough] at ran calls_eq output_eq
        rw [ran, if_neg short]
        exact ⟨_, rfl, rfl, rfl, calls_eq.trans (List.append_nil _).symm, output_eq, by simp [room_eq]⟩
      · intro refused
        have short : room < (Utf8.encode text).length := by
          simpa [Machine.Takes, room_eq] using refused
        rw [ran, if_pos short]
        exact ⟨_, [], rfl, List.prefix_refl [], calls_eq.trans (List.append_nil _).symm⟩

theorem Does.of_run {action : Action Unit} (ran : action.run before = (result, middle))
    (advances : before.Advances calls [] files middle) : action.Does before calls [] result files := by
  constructor
  · intro _
    exact ⟨middle, ran, advances⟩
  · intro refused
    simp [Machine.Takes] at refused

theorem Does.of_run_eq {action next : Action Unit} (ran : action.run before = next.run middle)
    (advances : before.Advances calls [] files middle)
    (does : next.Does middle more written result last) :
    action.Does before (calls ++ more) written result last := by
  have rooms : before.Takes written ↔ middle.Takes written := by
    unfold Machine.Takes
    rw [advances.room_eq, Machine.map_sub_zero]
  constructor
  · intro takes
    obtain ⟨after, nextRan, further⟩ := does.fits (rooms.mp takes)
    exact ⟨after, ran.trans nextRan, advances.trans further⟩
  · intro refused
    obtain ⟨cut, reached, nextRan, isPrefix, calls_eq⟩ :=
      does.full (fun takes => refused (rooms.mpr takes))
    refine ⟨cut, calls ++ reached, ran.trans nextRan, ?_, ?_⟩
    · exact (List.prefix_append_right_inj calls).mpr isPrefix
    · rw [calls_eq, advances.calls_eq, List.append_assoc]

theorem Does.bind {first : Action Unit} {next : Unit → Action Unit}
    (does : first.Does before calls written (.ok ()) files)
    (nextDoes : ∀ middle, before.Advances calls written files middle →
      (next ()).Does middle more later result last) :
    (first >>= next).Does before (calls ++ more) (written ++ later) result last := by
  by_cases takes : before.Takes written
  · obtain ⟨middle, ran, advances⟩ := does.fits takes
    have further := nextDoes middle advances
    constructor
    · intro all
      have rest := (advances.takes_append_iff.mp all).2
      obtain ⟨after, nextRan, advancesFurther⟩ := further.fits rest
      exact ⟨after, by rw [run_bind, ran]; exact nextRan, advances.trans advancesFurther⟩
    · intro refused
      have rest : ¬ middle.Takes later := by
        intro takesLater
        exact refused (advances.takes_append_iff.mpr ⟨takes, takesLater⟩)
      obtain ⟨cut, reached, nextRan, isPrefix, calls_eq⟩ := further.full rest
      refine ⟨cut, calls ++ reached, by rw [run_bind, ran]; exact nextRan, ?_, ?_⟩
      · exact (List.prefix_append_right_inj calls).mpr isPrefix
      · rw [calls_eq, advances.calls_eq, List.append_assoc]
  · -- The output stops the first part already, so the second one is not reached.
    obtain ⟨cut, reached, ran, isPrefix, calls_eq⟩ := does.full takes
    have refused : ¬ before.Takes (written ++ later) := by
      intro all
      apply takes
      intro room mem
      have enough := all room mem
      rw [List.length_append] at enough
      omega
    constructor
    · intro all
      exact absurd all refused
    · intro _
      exact ⟨cut, reached, by rw [run_bind, ran], isPrefix.trans (List.prefix_append calls more),
        calls_eq⟩

theorem Does.bind_error {first : Action Unit} {next : Unit → Action Unit} {fault : RunFault}
    (does : first.Does before calls written (.error fault) files) :
    (first >>= next).Does before calls written (.error fault) files := by
  constructor
  · intro takes
    obtain ⟨after, ran, advances⟩ := does.fits takes
    exact ⟨after, by rw [run_bind, ran], advances⟩
  · intro refused
    obtain ⟨cut, reached, ran, isPrefix, calls_eq⟩ := does.full refused
    exact ⟨cut, reached, by rw [run_bind, ran], isPrefix, calls_eq⟩

end Action

namespace Engine

open LineScript.Action

variable {programs : Programs} {machine : Machine} {calls : List Call} {written : List UInt8}
  {files : FileSystem} {fault : RunFault}

/-- The machine on which an instruction is performed. -/
def announced (machine : Machine) (instruction : Instruction) : Machine :=
  machine.recordEvents [.executing instruction.line instruction.display]

theorem run_execute (programs : Programs) (instruction : Instruction) (machine : Machine) :
    (execute programs instruction).run machine =
      (perform programs instruction.operation >>= fun _ => write ['\n']).run
        (announced machine instruction) := by
  rw [execute, run_bind, run_report]
  rfl

theorem execute_does (instruction : Instruction) (does : (perform programs instruction.operation).Does
    (announced machine instruction) calls written (.ok ()) files) :
    (execute programs instruction).Does machine calls (written ++ [10]) (.ok ()) files := by
  have blank : ∀ middle, (announced machine instruction).Advances calls written files middle →
      (write ['\n']).Does middle [] [10] (.ok ()) files := by
    intro middle advances
    rw [← advances.files_eq]
    exact Does.write ['\n'] middle
  have both : (perform programs instruction.operation >>= fun _ => write ['\n']).Does
      (announced machine instruction) (calls ++ []) (written ++ [10]) (.ok ()) files :=
    Does.bind does blank
  rw [List.append_nil] at both
  exact Does.of_run_eq (run_execute programs instruction machine)
    (machine.advances_record_events _) both

theorem execute_fails (instruction : Instruction) (does : (perform programs instruction.operation).Does
    (announced machine instruction) calls written (.error fault) files) :
    (execute programs instruction).Does machine calls written (.error fault) files :=
  Does.of_run_eq (run_execute programs instruction machine) (machine.advances_record_events _)
    does.bind_error

end Engine

end LineScript
