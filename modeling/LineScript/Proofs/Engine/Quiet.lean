import LineScript.Engine
import LineScript.Proofs.Engine.Actions

/-!
# Quiet actions

An action is quiet when it neither changes the session nor writes to the output, never finds the
output full, and does the same whatever room the output has. What operations do before they change
the session or write is quiet, however many requests it makes to the host and wherever it stops.
-/

namespace LineScript

set_option autoImplicit false

variable {α β : Type}

/-- An action that the session and the output cannot tell from doing nothing. -/
structure Action.IsQuiet (action : Action α) : Prop where
  session_eq : ∀ machine, (action.run machine).2.session = machine.session
  output_eq : ∀ machine, (action.run machine).2.output = machine.output
  ne_outputFull : ∀ machine, (action.run machine).1 ≠ .error .outputFull
  run_withRoom : ∀ machine room,
    action.run (machine.withRoom room) =
      ((action.run machine).1, (action.run machine).2.withRoom room)

namespace Action.IsQuiet

/-! ## Closure -/

theorem pure (answer : α) : IsQuiet (Pure.pure answer : Action α) where
  session_eq _ := rfl
  output_eq _ := rfl
  ne_outputFull _ := by simp [run_pure]
  run_withRoom _ _ := rfl

theorem throw {fault : RunFault} (other : fault ≠ .outputFull) :
    IsQuiet (MonadExcept.throw fault : Action α) where
  session_eq _ := rfl
  output_eq _ := rfl
  ne_outputFull machine := by
    rw [run_throw]
    intro same
    injection same with same
    exact other same
  run_withRoom _ _ := rfl

theorem bind {first : Action α} {next : α → Action β} (quiet : IsQuiet first)
    (nextQuiet : ∀ answer, IsQuiet (next answer)) : IsQuiet (first >>= next) := by
  constructor
  · intro machine
    have kept := quiet.session_eq machine
    rw [run_bind]
    generalize first.run machine = ran at kept ⊢
    rcases ran with ⟨fault | answer, middle⟩
    · exact kept
    · exact ((nextQuiet answer).session_eq middle).trans kept
  · intro machine
    have kept := quiet.output_eq machine
    rw [run_bind]
    generalize first.run machine = ran at kept ⊢
    rcases ran with ⟨fault | answer, middle⟩
    · exact kept
    · exact ((nextQuiet answer).output_eq middle).trans kept
  · intro machine
    have other := quiet.ne_outputFull machine
    rw [run_bind]
    generalize first.run machine = ran at other ⊢
    rcases ran with ⟨fault | answer, middle⟩
    · exact error_ne_output_full β other
    · exact (nextQuiet answer).ne_outputFull middle
  · intro machine room
    have moved := quiet.run_withRoom machine room
    rw [run_bind, run_bind, moved]
    rcases first.run machine with ⟨fault | answer, middle⟩
    · rfl
    · exact (nextQuiet answer).run_withRoom middle room

theorem for_m {entries : List α} {body : α → Action Unit} (quiet : ∀ entry, IsQuiet (body entry)) :
    IsQuiet (entries.forM body) := by
  induction entries with
  | nil => exact pure ()
  | cons entry rest ih => exact bind (quiet entry) fun _ => ih

theorem of_reads {action : Action α} {answer : Machine → α}
    (reads : ∀ machine, action.run machine = (.ok (answer machine), machine))
    (roomless : ∀ machine room, answer (machine.withRoom room) = answer machine) :
    IsQuiet action := by
  constructor
  · intro machine
    rw [reads]
  · intro machine
    rw [reads]
  · intro machine
    rw [reads]
    exact nofun
  · intro machine room
    rw [reads, reads, roomless]

theorem session : IsQuiet Action.session := of_reads run_session fun _ _ => rfl

theorem files : IsQuiet Action.files := of_reads run_files fun _ _ => rfl

theorem launches : IsQuiet Action.launches := of_reads run_launches fun _ _ => rfl

theorem record {entry : Entry} (silent : ∀ bytes, entry ≠ .output bytes) :
    IsQuiet (modify (·.record entry) : Action Unit) := by
  have ran : ∀ machine, (modify (·.record entry) : Action Unit).run machine =
      (.ok (), machine.record entry) := fun _ => rfl
  constructor
  · intro machine
    rw [ran, Machine.session_record]
  · intro machine
    rw [ran]
    cases entry with
    | event event => exact machine.output_record_event event
    | output bytes => exact absurd rfl (silent bytes)
    | call call => exact machine.output_record_call call
  · intro machine
    rw [ran]
    exact nofun
  · intro machine room
    rfl

theorem report (event : Event) : IsQuiet (Action.report event) :=
  record (fun _ => Entry.noConfusion)

theorem ask (call : Call) (question : FileSystem → α) : IsQuiet (Action.ask call question) := by
  apply bind (record fun _ => Entry.noConfusion)
  intro _
  have reads : ∀ machine, (do return question (← get).files : Action α).run machine =
      (.ok (question machine.files), machine) := fun _ => rfl
  exact of_reads reads fun _ _ => rfl

variable {blame : HostError → RunFault} (blameless : ∀ error, blame error ≠ .outputFull)

include blameless

theorem demand (call : Call) (question : FileSystem → Except HostError α) :
    IsQuiet (Action.demand (Action.ask call question) blame) := by
  apply bind (ask call question)
  intro answer
  cases answer with
  | ok answer => exact pure answer
  | error error => exact throw (blameless error)

theorem attempt (call : Call) (change : FileSystem → Except HostError α × FileSystem) :
    IsQuiet (Action.attempt call change blame) := by
  constructor
  · intro machine
    rw [run_attempt, Machine.session_record]
  · intro machine
    rw [run_attempt]
    exact machine.output_record_call call
  · intro machine
    rw [run_attempt]
    cases (change machine.files).1 with
    | ok answer => exact nofun
    | error error =>
      intro same
      injection same with same
      exact blameless error same
  · intro machine room
    rw [run_attempt, run_attempt, Machine.files_with_room]
    rfl

theorem change (call : Call) (update : FileSystem → Except HostError FileSystem) :
    IsQuiet (Action.change call update blame) := attempt blameless call _

end Action.IsQuiet

/-! ## What operations do first -/

namespace Engine

open LineScript.Action

theorem report_unbound_is_quiet (tokens : List Token) : IsQuiet (reportUnbound tokens) := by
  apply IsQuiet.bind IsQuiet.session
  intro session
  apply IsQuiet.for_m
  intro token
  split
  · exact IsQuiet.report _
  · exact IsQuiet.pure ()

theorem resolve_is_quiet (token : Token) : IsQuiet (resolve token) := by
  apply IsQuiet.bind (report_unbound_is_quiet [token])
  intro _
  exact IsQuiet.bind IsQuiet.session fun _ => IsQuiet.pure _

theorem resolve_path_is_quiet (token : Token) : IsQuiet (resolvePath token) := by
  apply IsQuiet.bind (report_unbound_is_quiet [token])
  intro _
  exact IsQuiet.bind IsQuiet.session fun _ => IsQuiet.pure _

theorem ensure_present_is_quiet (path : Path) : IsQuiet (ensurePresent path) := by
  refine IsQuiet.bind (IsQuiet.demand ?_ _ _) fun _ => IsQuiet.pure _
  intro error
  split
  · exact nofun
  · exact nofun

theorem ensure_absent_is_quiet (path : Path) : IsQuiet (ensureAbsent path) := by
  apply IsQuiet.bind (IsQuiet.ask _ _)
  intro answer
  split
  · exact IsQuiet.throw nofun
  · exact IsQuiet.pure ()
  · exact IsQuiet.throw nofun

theorem run_command_is_quiet (programs : Programs) (command : Command) :
    IsQuiet (runCommand programs command) := by
  have blameless : ∀ error, RunFault.command command.display (.unstartable error) ≠ .outputFull :=
    fun _ => nofun
  apply IsQuiet.bind (IsQuiet.report _)
  intro _
  apply IsQuiet.bind IsQuiet.session
  intro session
  apply IsQuiet.bind IsQuiet.launches
  intro started
  apply IsQuiet.bind (IsQuiet.attempt blameless _ _)
  intro completion
  split
  · exact IsQuiet.pure _
  · exact IsQuiet.throw nofun

theorem resolve_command_is_quiet (token : Token) : IsQuiet (resolveCommand token) := by
  apply IsQuiet.bind (resolve_is_quiet token)
  intro text
  apply IsQuiet.bind IsQuiet.session
  intro session
  split
  · exact IsQuiet.pure _
  · exact IsQuiet.throw nofun

theorem copy_tree_is_quiet {blame : HostError → RunFault}
    (blameless : ∀ error, blame error ≠ .outputFull) (source destination : Path) :
    IsQuiet (copyTree blame source destination) := by
  induction source, destination using copyTree.induct with
  | case1 source destination ih =>
    rw [copyTree]
    apply IsQuiet.bind (IsQuiet.ask _ _)
    intro descends
    split
    · rename_i within
      apply IsQuiet.bind (IsQuiet.change blameless _ _)
      intro _
      apply IsQuiet.bind (IsQuiet.demand blameless _ _)
      intro entries
      exact IsQuiet.for_m fun entry => ih descends within entry.1
    · exact IsQuiet.change blameless _ _

theorem transfer_paths_is_quiet (source destination : Token) :
    IsQuiet (transferPaths source destination) := by
  apply IsQuiet.bind (resolve_path_is_quiet source)
  intro source
  apply IsQuiet.bind (resolve_path_is_quiet destination)
  intro destination
  apply IsQuiet.bind (ensure_present_is_quiet source)
  intro _
  exact IsQuiet.bind (ensure_absent_is_quiet destination) fun _ => IsQuiet.pure _

theorem report_search_is_quiet (steps : List SearchStep) : IsQuiet (reportSearch steps) := by
  apply IsQuiet.for_m
  intro step
  cases step with
  | listing directory => exact IsQuiet.record fun _ => nofun
  | unlistable directory error => exact IsQuiet.report _
  | hit path => exact IsQuiet.pure ()

end Engine

end LineScript
