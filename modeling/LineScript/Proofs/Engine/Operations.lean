import LineScript.Proofs.Engine.Truncation

/-!
# The shape of operations

Every operation but `each` is quiet until its last step, and that step either changes the session or
writes to the output, never both. So an operation that stops has not begun to change what a script
can see, and one that is cut short by the output has changed what it changes.
-/

namespace LineScript

set_option autoImplicit false

variable {α : Type}

/-- An action that is quiet except that it may end with one change of the session or one write. -/
inductive Action.Settles : Action Unit → Prop where
  | quiet {action : Action Unit} (quiet : IsQuiet action) : Settles action
  | update (change : Session → Session) : Settles (updateSession change)
  | write (text : Text) : Settles (Action.write text)
  | after {α : Type} {first : Action α} {next : α → Action Unit} (quiet : IsQuiet first)
    (settles : ∀ answer, Settles (next answer)) : Settles (first >>= next)

/-- An action that leaves the session and the output as they were when it stops, unless it is the
output that stops it. -/
def Action.IsAtomic (action : Action α) : Prop :=
  ∀ {machine after : Machine} {fault : RunFault}, action.run machine = (.error fault, after) →
    fault ≠ .outputFull → after.session = machine.session ∧ after.output = machine.output

namespace Action

theorem IsQuiet.is_atomic {action : Action α} (quiet : IsQuiet action) : IsAtomic action := by
  intro machine after fault stopped _
  have session_eq := quiet.session_eq machine
  have output_eq := quiet.output_eq machine
  rw [stopped] at session_eq output_eq
  exact ⟨session_eq, output_eq⟩

theorem IsQuiet.bind_is_atomic {β : Type} {first : Action α} {next : α → Action β}
    (quiet : IsQuiet first) (atomic : ∀ answer, IsAtomic (next answer)) :
    IsAtomic (first >>= next) := by
  intro machine after fault stopped other
  have session_eq := quiet.session_eq machine
  have output_eq := quiet.output_eq machine
  rw [run_bind] at stopped
  rcases ran : first.run machine with ⟨early | answer, middle⟩
  · rw [ran] at stopped session_eq output_eq
    injection stopped with _ same
    rw [← same]
    exact ⟨session_eq, output_eq⟩
  · rw [ran] at stopped session_eq output_eq
    obtain ⟨session_kept, output_kept⟩ := atomic answer stopped other
    exact ⟨session_kept.trans session_eq, output_kept.trans output_eq⟩

theorem output_full_of_write {text : Text} {machine after : Machine} {fault : RunFault}
    (stopped : (write text).run machine = (.error fault, after)) : fault = .outputFull := by
  rw [write, run_write_bytes] at stopped
  split at stopped
  · injection stopped with result_eq
    cases result_eq
  · injection stopped with result_eq
    split at result_eq
    · injection result_eq with same
      exact same.symm
    · cases result_eq

theorem Settles.is_atomic {action : Action Unit} (settles : Settles action) : IsAtomic action := by
  induction settles with
  | quiet quiet => exact quiet.is_atomic
  | update change =>
    intro machine after fault stopped _
    rw [run_update_session] at stopped
    injection stopped with result_eq
    cases result_eq
  | write text =>
    intro machine after fault stopped other
    exact absurd (output_full_of_write stopped) other
  | after quiet _ ih => exact quiet.bind_is_atomic ih

theorem Settles.truncates {action : Action Unit} (settles : Settles action) :
    Truncates action := by
  induction settles with
  | quiet quiet => exact quiet.truncates
  | update change => exact update_session_truncates change
  | write text => exact write_truncates text
  | after quiet _ ih => exact quiet.bind_truncates ih

theorem IsQuiet.keeps_session {action : Action α} (quiet : IsQuiet action) : KeepsSession action :=
  quiet.session_eq

end Action

namespace Engine

open LineScript.Action

theorem host_ne_output_full (attempt : Attempt) (path : Path) (error : HostError) :
    RunFault.host attempt path error ≠ .outputFull := nofun

theorem making_settles (token : Token) (event : Path → Event) (call : Path → Call)
    (update : Path → FileSystem → Except HostError FileSystem) (attempt : Attempt) :
    Settles (do
      let path ← resolvePath token
      ensureAbsent path
      Action.report (event path)
      Action.change (call path) (update path) (.host attempt path)) := by
  apply Settles.after (resolve_path_is_quiet token)
  intro path
  apply Settles.after (ensure_absent_is_quiet path)
  intro _
  apply Settles.after (IsQuiet.report _)
  intro _
  exact Settles.quiet (IsQuiet.change (host_ne_output_full attempt path) _ _)

/-- The operations that store a text in a file ask first and report afterwards. -/
theorem storing_settles (token data : Token) (event : Path → Event) (call : Path → Call)
    (update : Path → Text → FileSystem → Except HostError FileSystem) (attempt : Attempt) :
    Settles (do
      let path ← resolvePath token
      let data ← resolve data
      Action.change (call path) (update path data) (.host attempt path)
      Action.report (event path)) := by
  apply Settles.after (resolve_path_is_quiet token)
  intro path
  apply Settles.after (resolve_is_quiet data)
  intro data
  apply Settles.after (IsQuiet.change (host_ne_output_full attempt path) _ _)
  intro _
  exact Settles.quiet (IsQuiet.report _)

theorem change_directory_settles (programs : Programs) (token : Token) :
    Settles (perform programs (.changeDirectory token)) := by
  rw [perform]
  apply Settles.after (resolve_path_is_quiet token)
  intro path
  have blameless : ∀ error, RunFault.directory path (.unreachable error) ≠ .outputFull :=
    fun _ => nofun
  apply Settles.after (IsQuiet.demand blameless _ _)
  intro target
  apply Settles.after (IsQuiet.ask _ _)
  intro isDirectory
  split
  · exact Settles.after (IsQuiet.report _) fun _ => Settles.update _
  · exact Settles.quiet (IsQuiet.throw nofun)

theorem remove_settles (programs : Programs) (token : Token) :
    Settles (perform programs (.remove token)) := by
  rw [perform]
  apply Settles.after (resolve_path_is_quiet token)
  intro path
  apply Settles.after (ensure_present_is_quiet path)
  intro node
  apply Settles.after (IsQuiet.report _)
  intro _
  split
  · exact Settles.quiet (IsQuiet.attempt (host_ne_output_full _ path) _ _)
  · exact Settles.quiet (IsQuiet.change (host_ne_output_full _ path) _ _)

theorem read_settles (programs : Programs) (source : Token) (target : Option Text) :
    Settles (perform programs (.read source target)) := by
  rw [perform]
  apply Settles.after (resolve_path_is_quiet source)
  intro path
  apply Settles.after (ensure_present_is_quiet path)
  intro _
  apply Settles.after (IsQuiet.demand (host_ne_output_full _ path) _ _)
  intro data
  apply Settles.after (IsQuiet.report _)
  intro _
  cases target with
  | some name => exact Settles.update _
  | none => exact Settles.write _

theorem find_settles (programs : Programs) (pattern : Token) (group : Text) :
    Settles (perform programs (.find pattern group)) := by
  rw [perform]
  apply Settles.after (resolve_is_quiet pattern)
  intro pattern
  split
  · exact Settles.quiet (IsQuiet.throw nofun)
  · apply Settles.after IsQuiet.files
    intro files
    apply Settles.after IsQuiet.session
    intro session
    apply Settles.after (report_search_is_quiet _)
    intro _
    exact Settles.after (IsQuiet.report _) fun _ => Settles.update _

theorem perform_settles (programs : Programs) {operation : Operation}
    (single : ∀ group command, operation ≠ .each group command) :
    Settles (perform programs operation) := by
  cases operation with
  | echo arguments =>
    rw [perform]
    apply Settles.after (report_unbound_is_quiet arguments)
    intro _
    exact Settles.after IsQuiet.session fun _ => Settles.write _
  | execute command capture =>
    rw [perform]
    apply Settles.after (resolve_command_is_quiet command)
    intro command
    apply Settles.after (run_command_is_quiet programs command)
    intro output
    cases capture with
    | some name => exact Settles.update _
    | none => exact Settles.write output
  | set name value =>
    rw [perform]
    exact Settles.update _
  | createFile path => exact making_settles path .creatingFile .createFile _ .createFile
  | makeDirectory path =>
    exact making_settles path .creatingDirectory .makeDirectory _ .makeDirectory
  | changeDirectory path => exact change_directory_settles programs path
  | remove path => exact remove_settles programs path
  | copy source destination =>
    rw [perform]
    apply Settles.after (transfer_paths_is_quiet source destination)
    intro paths
    apply Settles.after (copy_tree_is_quiet (host_ne_output_full _ _) _ _)
    intro _
    exact Settles.quiet (IsQuiet.report _)
  | move source destination =>
    rw [perform]
    apply Settles.after (transfer_paths_is_quiet source destination)
    intro paths
    apply Settles.after (IsQuiet.change (host_ne_output_full _ _) _ _)
    intro _
    exact Settles.quiet (IsQuiet.report _)
  | read source target => exact read_settles programs source target
  | write path data => exact storing_settles path data .wroteTo .write _ .writeTo
  | append path data => exact storing_settles path data .appendedTo .append _ .appendTo
  | find pattern group => exact find_settles programs pattern group
  | each group command => exact absurd rfl (single group command)

end Engine

end LineScript
