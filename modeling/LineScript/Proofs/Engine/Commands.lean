import LineScript.Engine
import LineScript.Proofs.Engine.Actions

/-!
# Resolving and running commands

Reading tokens only reports the names that are unbound. Running a command reports it, starts one
process and turns what the process left behind into a text or a fault; `each` repeats this for the
entries of its group, every process finding the file system as the one before left it.
-/

namespace LineScript.Engine

set_option autoImplicit false

open LineScript.Action

/-- The events of reading tokens. -/
def unboundEvents (session : Session) (tokens : List Token) : List Event :=
  tokens.filterMap fun token => (session.unboundName? token).map .unboundVariable

theorem run_report_unbound (tokens : List Token) (machine : Machine) :
    (reportUnbound tokens).run machine =
      (.ok (), machine.recordEvents (unboundEvents machine.session tokens)) := by
  rw [reportUnbound, run_bind, run_session]
  dsimp only
  generalize machine.session = session
  induction tokens generalizing machine with
  | nil => rfl
  | cons token rest ih =>
    rw [run_for_m_cons]
    cases unbound : session.unboundName? token with
    | none =>
      have events_eq : unboundEvents session (token :: rest) = unboundEvents session rest := by
        simp [unboundEvents, unbound]
      rw [events_eq, run_pure]
      exact ih machine
    | some name =>
      have events_eq : unboundEvents session (token :: rest) =
          .unboundVariable name :: unboundEvents session rest := by
        simp [unboundEvents, unbound]
      rw [events_eq, run_report]
      exact ih (machine.record (.event (.unboundVariable name)))

theorem run_resolve (token : Token) (machine : Machine) :
    (resolve token).run machine =
      (.ok (machine.session.resolve token),
        machine.recordEvents (unboundEvents machine.session [token])) := by
  rw [resolve, run_bind, run_report_unbound]
  change (Except.ok (Session.resolve (Machine.session _) token), _) = _
  rw [Machine.session_record_events]

theorem run_resolve_path (token : Token) (machine : Machine) :
    (resolvePath token).run machine =
      (.ok (machine.session.resolvePath token),
        machine.recordEvents (unboundEvents machine.session [token])) := by
  rw [resolvePath, run_bind, run_report_unbound]
  change (Except.ok (Session.resolvePath (Machine.session _) token), _) = _
  rw [Machine.session_record_events]

theorem run_resolve_command (token : Token) (machine : Machine) :
    (resolveCommand token).run machine =
      (match Command.ofText? machine.session (machine.session.resolve token) with
        | some command => .ok command
        | none => .error (.command (machine.session.resolve token) .noWords),
        machine.recordEvents (unboundEvents machine.session [token])) := by
  rw [resolveCommand, run_bind, run_resolve]
  dsimp only
  rw [run_bind, run_session]
  dsimp only
  rw [Machine.session_record_events]
  cases Command.ofText? machine.session (machine.session.resolve token) with
  | some command => rfl
  | none => rfl

/-- The result of a command that is launched after `started` others, and the file system after it. -/
def commandResult (programs : Programs) (started : Nat) (launch : Launch) (files : FileSystem) :
    Except RunFault Text × FileSystem :=
  let words := launch.command.display
  match programs started launch files with
  | (.error error, after) => (.error (.command words (.unstartable error)), after)
  | (.ok completion, after) =>
    if completion.status.isSuccess then
      (.ok (Utf8.decodeLossy completion.output ++ Utf8.decodeLossy completion.errors), after)
    else
      (.error (.command words (.failed completion.status (Utf8.decodeLossy completion.errors))),
        after)

/-- The machine when a command's process has come to its end. -/
def afterLaunch (machine : Machine) (command : Command) (files : FileSystem) : Machine :=
  { (machine.record (.event (.running command.display))).record
      (.call (.launch ⟨command, machine.session.directory⟩)) with files := files }

section AfterLaunch

variable (machine : Machine) (command : Command) (files : FileSystem)

@[simp] theorem session_after_launch :
    (afterLaunch machine command files).session = machine.session := rfl

@[simp] theorem files_after_launch : (afterLaunch machine command files).files = files := rfl

@[simp] theorem output_after_launch :
    (afterLaunch machine command files).output = machine.output := by
  change Machine.output ((machine.record _).record _) = _
  rw [Machine.output_record_call, Machine.output_record_event]

@[simp] theorem launches_after_launch :
    (afterLaunch machine command files).transcript.launches = machine.transcript.launches + 1 := by
  change (Machine.transcript ((machine.record _).record _)).launches = _
  rw [Machine.launches_record_launch, Machine.launches_record_event]

end AfterLaunch

theorem run_run_command (programs : Programs) (command : Command) (machine : Machine) :
    (runCommand programs command).run machine =
      match commandResult programs machine.transcript.launches
        ⟨command, machine.session.directory⟩ machine.files with
      | (result, files) => (result, afterLaunch machine command files) := by
  rw [runCommand, run_bind, run_report]
  dsimp only
  rw [run_bind, run_session]
  dsimp only
  rw [run_bind, run_launches]
  dsimp only
  rw [run_bind, run_attempt, Machine.launches_record_event, Machine.session_record,
    Machine.files_record]
  unfold commandResult
  rcases programs machine.transcript.launches ⟨command, machine.session.directory⟩ machine.files with
    ⟨error | completion, after⟩
  · rfl
  · dsimp only [Except.mapError]
    split
    · rfl
    · rfl

/-- A command that succeeds gives the output of its process and then its errors, and leaves the session
alone. -/
theorem of_run_run_command_eq_ok {programs : Programs} {command : Command} {machine after : Machine}
    {output : Text} (ran : (runCommand programs command).run machine = (.ok output, after)) :
    after.session = machine.session ∧ ∃ completion,
      (programs machine.transcript.launches ⟨command, machine.session.directory⟩ machine.files).1 =
        .ok completion ∧
      output = Utf8.decodeLossy completion.output ++ Utf8.decodeLossy completion.errors := by
  rw [run_run_command] at ran
  unfold commandResult at ran
  generalize programs machine.transcript.launches ⟨command, machine.session.directory⟩
    machine.files = answered at ran ⊢
  rcases answered with ⟨error | completion, files⟩
  · cases ran
  · dsimp only at ran
    by_cases success : completion.status.isSuccess = true
    · rw [if_pos success] at ran
      cases ran
      exact ⟨rfl, completion, rfl, rfl⟩
    · rw [if_neg success] at ran
      cases ran

end LineScript.Engine
