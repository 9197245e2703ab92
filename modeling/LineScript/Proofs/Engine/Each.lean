import LineScript.Proofs.Engine.Commands
import LineScript.Proofs.Engine.Operations

/-!
# Running a command for every entry

The entries of a group are run in order until one of them stops. Every entry before it has written
its text and a line end; the entry that stops and those after it have written nothing.
-/

namespace LineScript.Engine

set_option autoImplicit false

open LineScript.Action

/-- What `each` does for one entry. -/
def runEntry (programs : Programs) (template : Command) (entry : Text) : Action Unit := do
  Action.report (.entry entry)
  let output ← runCommand programs (template.fill entry)
  Action.write (output ++ ['\n'])

/-- What `each` has written for entries with these outputs. -/
def writtenBytes (outputs : List Text) : List UInt8 :=
  outputs.flatMap fun output => Utf8.encode (output ++ ['\n'])

/-- Running the template for these entries in order gives these outputs, every process being started
on the file system that the one before it left. -/
inductive EntriesRun (programs : Programs) (directory : Path) (template : Command) :
    Nat → FileSystem → List Text → List Text → FileSystem → Prop where
  | nil {started : Nat} {files : FileSystem} :
    EntriesRun programs directory template started files [] [] files
  | cons {started : Nat} {files middle after : FileSystem} {entry output : Text}
    {entries outputs : List Text}
    (ran : commandResult programs started ⟨template.fill entry, directory⟩ files =
      (.ok output, middle))
    (rest : EntriesRun programs directory template (started + 1) middle entries outputs after) :
    EntriesRun programs directory template started files (entry :: entries) (output :: outputs) after

theorem run_entry_settles (programs : Programs) (template : Command) (entry : Text) :
    Settles (runEntry programs template entry) := by
  apply Settles.after (IsQuiet.report _)
  intro _
  exact Settles.after (run_command_is_quiet programs _) fun _ => Settles.write _

theorem run_entry_keeps_session (programs : Programs) (template : Command) (entry : Text) :
    KeepsSession (runEntry programs template entry) := by
  apply KeepsSession.bind (IsQuiet.report _).keeps_session
  intro _
  exact KeepsSession.bind (run_command_is_quiet programs _).keeps_session fun _ =>
    write_keeps_session _

/-- Everything that `each` does for a group with entries. -/
def runEntries (programs : Programs) (entries : List Text) (command : Token) : Action Unit := do
  let template ← resolveCommand command
  entries.forM (runEntry programs template)

theorem run_run_each (programs : Programs) (group : Text) (command : Token) (machine : Machine) :
    (runEach programs group command).run machine =
      match machine.session.group group with
      | [] => (.ok (), machine.record (.event (.emptyGroup group)))
      | entry :: rest => (runEntries programs (entry :: rest) command).run machine := by
  rw [runEach, run_bind, run_session]
  dsimp only
  cases machine.session.group group with
  | nil => rfl
  | cons entry rest => rfl

theorem run_entries_truncates (programs : Programs) (entries : List Text) (command : Token) :
    Truncates (runEntries programs entries command) := by
  apply IsQuiet.bind_truncates (resolve_command_is_quiet command)
  intro template
  exact Truncates.for_m (fun entry => (run_entry_settles programs template entry).truncates)
    fun entry => run_entry_keeps_session programs template entry

theorem run_entries_keeps_session (programs : Programs) (entries : List Text) (command : Token) :
    KeepsSession (runEntries programs entries command) := by
  apply KeepsSession.bind (resolve_command_is_quiet command).keeps_session
  intro template
  exact KeepsSession.for_m fun entry => run_entry_keeps_session programs template entry

theorem run_each_truncates (programs : Programs) (group : Text) (command : Token) :
    Truncates (runEach programs group command) := by
  apply IsQuiet.bind_truncates IsQuiet.session
  intro session
  split
  · exact (IsQuiet.report _).truncates
  · exact run_entries_truncates programs _ command

theorem run_each_keeps_session (programs : Programs) (group : Text) (command : Token) :
    KeepsSession (runEach programs group command) := by
  apply KeepsSession.bind IsQuiet.session.keeps_session
  intro session
  split
  · exact (IsQuiet.report _).keeps_session
  · exact run_entries_keeps_session programs _ command

/-! ## Where the loop stops -/

/-- What the machine shows of itself to the next entry after a write that succeeds. -/
theorem after_write {text : Text} {machine after : Machine} {answer : Unit}
    (returned : (write text).run machine = (.ok answer, after)) :
    after.output = machine.output ++ Utf8.encode text ∧ after.session = machine.session ∧
      after.files = machine.files ∧
      after.transcript.launches = machine.transcript.launches := by
  rw [write, run_write_bytes] at returned
  split at returned
  · injection returned with _ same
    rw [← same]
    simp
  · rename_i room _
    injection returned with result_eq same
    split at result_eq
    · cases result_eq
    · rename_i fits
      rw [List.take_of_length_le (Nat.le_of_not_lt fits)] at same
      rw [← same]
      exact ⟨machine.output_record_output _, rfl, rfl, machine.launches_record_output _⟩

/-- The machine on which an entry's text is written. -/
def afterEntry (machine : Machine) (template : Command) (entry : Text) (files : FileSystem) :
    Machine :=
  afterLaunch (machine.record (.event (.entry entry))) (template.fill entry) files

theorem run_run_entry (programs : Programs) (template : Command) (entry : Text) (machine : Machine) :
    (runEntry programs template entry).run machine =
      match commandResult programs machine.transcript.launches
        ⟨template.fill entry, machine.session.directory⟩ machine.files with
      | (.error fault, files) => (.error fault, afterEntry machine template entry files)
      | (.ok output, files) =>
        (write (output ++ ['\n'])).run (afterEntry machine template entry files) := by
  rw [runEntry, run_bind, run_report]
  dsimp only
  rw [run_bind, run_run_command, Machine.launches_record_event, Machine.session_record,
    Machine.files_record]
  rcases commandResult programs machine.transcript.launches
    ⟨template.fill entry, machine.session.directory⟩ machine.files with ⟨fault | output, files⟩
  · rfl
  · rfl

theorem entries_stopped {programs : Programs} {template : Command} {entries : List Text}
    {machine after : Machine} {fault : RunFault}
    (stopped : (entries.forM (runEntry programs template)).run machine = (.error fault, after))
    (other : fault ≠ .outputFull) :
    ∃ done failing rest outputs files, entries = done ++ failing :: rest ∧
      EntriesRun programs machine.session.directory template machine.transcript.launches
        machine.files done outputs files ∧
      (commandResult programs (machine.transcript.launches + done.length)
        ⟨template.fill failing, machine.session.directory⟩ files).1 = .error fault ∧
      after.output = machine.output ++ writtenBytes outputs := by
  induction entries generalizing machine with
  | nil => cases stopped
  | cons entry entries ih =>
    rw [run_for_m_cons, run_run_entry] at stopped
    rcases result : commandResult programs machine.transcript.launches
      ⟨template.fill entry, machine.session.directory⟩ machine.files with ⟨early | output, files⟩
    · rw [result] at stopped
      injection stopped with fault_eq same
      injection fault_eq with fault_eq
      refine ⟨[], entry, entries, [], machine.files, rfl, EntriesRun.nil, ?_, ?_⟩
      · rw [List.length_nil, Nat.add_zero, result, fault_eq]
      · rw [← same, afterEntry, output_after_launch, Machine.output_record_event]
        exact (List.append_nil _).symm
    · rw [result] at stopped
      dsimp only at stopped
      rcases ran : (write (output ++ ['\n'])).run
        (afterEntry machine template entry files) with ⟨full | answer, middle⟩
      · rw [ran] at stopped
        injection stopped with fault_eq _
        injection fault_eq with fault_eq
        exact absurd (fault_eq.symm.trans (output_full_of_write ran)) other
      · rw [ran] at stopped
        obtain ⟨output_eq, session_eq, files_eq, launches_eq⟩ := after_write ran
        rw [afterEntry, output_after_launch, Machine.output_record_event] at output_eq
        rw [afterEntry, launches_after_launch, Machine.launches_record_event] at launches_eq
        rw [afterEntry, session_after_launch, Machine.session_record] at session_eq
        rw [afterEntry, files_after_launch] at files_eq
        obtain ⟨done, failing, rest, outputs, last, split_eq, ran_done, failed, written⟩ :=
          ih stopped
        rw [session_eq, launches_eq, files_eq] at ran_done
        rw [session_eq, launches_eq] at failed
        refine ⟨entry :: done, failing, rest, output :: outputs, last, ?_, ?_, ?_, ?_⟩
        · rw [split_eq, List.cons_append]
        · exact EntriesRun.cons result ran_done
        · rw [← failed, List.length_cons, Nat.add_comm done.length 1, Nat.add_assoc]
        · rw [written, output_eq, List.append_assoc]
          rfl

/-- What `each` has written when it stops: nothing if its command has no words, and otherwise a line
end after the text of every entry before the one that stopped. -/
def EachStopped (programs : Programs) (machine : Machine) (entries : List Text) (command : Token)
    (fault : RunFault) (written : List UInt8) : Prop :=
  match Command.ofText? machine.session (machine.session.resolve command) with
  | none => written = []
  | some template =>
    ∃ done failing rest outputs files, entries = done ++ failing :: rest ∧
      EntriesRun programs machine.session.directory template machine.transcript.launches
        machine.files done outputs files ∧
      (commandResult programs (machine.transcript.launches + done.length)
        ⟨template.fill failing, machine.session.directory⟩ files).1 = .error fault ∧
      written = writtenBytes outputs

theorem each_stopped_record_event (programs : Programs) (machine : Machine) (event : Event)
    (entries : List Text) (command : Token) (fault : RunFault) (written : List UInt8) :
    EachStopped programs (machine.record (.event event)) entries command fault written ↔
      EachStopped programs machine entries command fault written := by
  simp only [EachStopped, Machine.session_record, Machine.files_record,
    Machine.launches_record_event]

theorem run_each_stopped {programs : Programs} {group : Text} {command : Token}
    {machine after : Machine} {fault : RunFault}
    (stopped : (runEach programs group command).run machine = (.error fault, after))
    (other : fault ≠ .outputFull) :
    ∃ written, after.output = machine.output ++ written ∧
      EachStopped programs machine (machine.session.group group) command fault written := by
  rw [run_run_each] at stopped
  split at stopped
  · injection stopped with result_eq
    cases result_eq
  · rename_i entry rest entries_eq
    rw [entries_eq]
    unfold EachStopped
    rw [runEntries, run_bind, run_resolve_command] at stopped
    cases split_eq : Command.ofText? machine.session (machine.session.resolve command) with
    | none =>
      rw [split_eq] at stopped
      injection stopped with _ same
      rw [← same]
      exact ⟨[], by simp, rfl⟩
    | some template =>
      rw [split_eq] at stopped
      obtain ⟨done, failing, rest, outputs, files, found, ran, failed, written⟩ :=
        entries_stopped stopped other
      rw [Machine.session_record_events, Machine.files_record_events,
        Machine.launches_record_events] at ran
      rw [Machine.session_record_events, Machine.launches_record_events] at failed
      rw [Machine.output_record_events] at written
      exact ⟨writtenBytes outputs, written, done, failing, rest, outputs, files, found, ran, failed,
        rfl⟩

end LineScript.Engine
