import LineScript.Proofs.Engine.Atomicity
import LineScript.Proofs.Engine.Composition
import LineScript.Proofs.Engine.Runs

/-!
# The session as a history

What an operation that succeeds does to the session is said once, for all operations. From it follows
that every variable, every group and the working directory are, after a run, what the last successful
instruction that is about them made them, and that the home directory never changes.
-/

namespace LineScript.Engine

set_option autoImplicit false

open LineScript.Action

/-! ## One operation -/

/-- The value that an operation binds its variable to, on the machine on which it is performed: the
written text without outer quotes, what a process wrote to its output and then to its error stream, or
the text of a file. -/
def BoundValue (programs : Programs) (machine : Machine) (operation : Operation) (value : Text) :
    Prop :=
  match operation with
  | .set _ token => value = Text.trimMarks '"' token.text
  | .execute token _ =>
    ∃ command completion,
      Command.ofText? machine.session (machine.session.resolve token) = some command ∧
      (programs machine.transcript.launches ⟨command, machine.session.directory⟩ machine.files).1 =
        .ok completion ∧
      value = Utf8.decodeLossy completion.output ++ Utf8.decodeLossy completion.errors
  | .read source _ => machine.files.textOf (machine.session.resolvePath source) = .ok value
  | _ => False

/-- The paths that a search finds on the machine on which it is performed. -/
def FoundPaths (machine : Machine) (operation : Operation) (paths : List Path) : Prop :=
  match operation with
  | .find pattern _ =>
    Search.find machine.files (machine.session.resolve pattern) machine.session.directory = .ok paths
  | _ => False

/-- The canonical path of the directory that is entered. -/
def EnteredDirectory (machine : Machine) (operation : Operation) (directory : Path) : Prop :=
  match operation with
  | .changeDirectory path =>
    machine.files.canonical (machine.session.resolvePath path) = .ok directory
  | _ => False

/-- What an operation that succeeds does to the session: it sets the part that it is about. -/
inductive Updates (programs : Programs) (machine : Machine) (operation : Operation) :
    Session → Prop where
  | binds (name value : Text) (subject : subject? operation = some (.variable name))
    (value_eq : BoundValue programs machine operation value) :
    Updates programs machine operation (machine.session.setVariable name value)
  | fills (group : Text) (paths : List Path) (subject : subject? operation = some (.group group))
    (found : FoundPaths machine operation paths) :
    Updates programs machine operation (machine.session.setGroup group paths)
  | enters (directory : Path) (subject : subject? operation = some .directory)
    (entered : EnteredDirectory machine operation directory) :
    Updates programs machine operation (machine.session.setDirectory directory)
  | nothing (subject : subject? operation = none) :
    Updates programs machine operation machine.session

section Perform

variable {programs : Programs} {machine after : Machine}

theorem updates_of_capture {token : Token} {name : Text}
    (ran : (perform programs (.execute token (some name))).run machine = (.ok (), after)) :
    Updates programs machine (.execute token (some name)) after.session := by
  rw [perform, run_bind_eq_ok_iff] at ran
  obtain ⟨command, resolved, commandRan, ran⟩ := ran
  rw [run_bind_eq_ok_iff] at ran
  obtain ⟨output, done, processRan, ran⟩ := ran
  rw [run_resolve_command] at commandRan
  obtain ⟨session_eq, completion, completed, output_eq⟩ := of_run_run_command_eq_ok processRan
  cases ran
  cases split_eq : Command.ofText? machine.session (machine.session.resolve token) with
  | none =>
    rw [split_eq] at commandRan
    cases commandRan
  | some words =>
    rw [split_eq] at commandRan
    cases commandRan
    rw [Machine.session_record_events, Machine.files_record_events, Machine.launches_record_events]
      at completed
    dsimp only
    rw [session_eq, Machine.session_record_events]
    exact .binds name output rfl ⟨command, completion, split_eq, completed, output_eq⟩

theorem updates_of_read {source : Token} {name : Text}
    (ran : (perform programs (.read source (some name))).run machine = (.ok (), after)) :
    Updates programs machine (.read source (some name)) after.session := by
  rw [perform, run_bind_eq_ok_iff] at ran
  obtain ⟨path, resolved, pathRan, ran⟩ := ran
  rw [run_resolve_path] at pathRan
  cases pathRan
  rw [run_bind_eq_ok_iff] at ran
  obtain ⟨node, present, presentRan, ran⟩ := ran
  have composed : IsComposed False False
    (ensurePresent (machine.session.resolvePath source)) := ensure_present_is_composed _
  have session_eq := composed.session_eq presentRan
  have files_eq := composed.files_eq presentRan
  rw [run_bind_eq_ok_iff] at ran
  obtain ⟨data, read, readRan, ran⟩ := ran
  obtain ⟨data_eq, rfl⟩ := run_demand_eq_ok_iff.mp readRan
  cases ran
  rw [files_eq, Machine.files_record_events] at data_eq
  simp only [Machine.session_record, session_eq, Machine.session_record_events]
  exact .binds name data rfl data_eq

theorem updates_of_find {pattern : Token} {group : Text}
    (ran : (perform programs (.find pattern group)).run machine = (.ok (), after)) :
    Updates programs machine (.find pattern group) after.session := by
  rw [perform, run_bind_eq_ok_iff] at ran
  obtain ⟨text, resolved, resolvedRan, ran⟩ := ran
  rw [run_resolve] at resolvedRan
  cases resolvedRan
  split at ran
  · cases ran
  · rename_i pieces pieces_eq
    rw [run_bind_eq_ok_iff] at ran
    obtain ⟨files, _, filesRan, ran⟩ := ran
    cases filesRan
    rw [run_bind_eq_ok_iff] at ran
    obtain ⟨session, _, sessionRan, ran⟩ := ran
    cases sessionRan
    rw [run_bind_eq_ok_iff] at ran
    obtain ⟨_, searched, searchRan, ran⟩ := ran
    have composed := @report_search_is_composed False False
    have session_eq := (composed _).session_eq searchRan
    cases ran
    simp only [Machine.session_record, session_eq, Machine.session_record_events,
      Machine.files_record_events]
    apply Updates.fills group _ rfl
    rw [FoundPaths, Search.find, pieces_eq]
    rfl

theorem updates_of_change_directory {path : Token}
    (ran : (perform programs (.changeDirectory path)).run machine = (.ok (), after)) :
    Updates programs machine (.changeDirectory path) after.session := by
  rw [perform, run_bind_eq_ok_iff] at ran
  obtain ⟨place, resolved, pathRan, ran⟩ := ran
  rw [run_resolve_path] at pathRan
  cases pathRan
  rw [run_bind_eq_ok_iff] at ran
  obtain ⟨target, found, targetRan, ran⟩ := ran
  obtain ⟨target_eq, rfl⟩ := run_demand_eq_ok_iff.mp targetRan
  rw [run_bind, run_ask] at ran
  dsimp only at ran
  split at ran
  · cases ran
    rw [Machine.files_record_events] at target_eq
    simp only [Machine.session_record, Machine.session_record_events]
    exact .enters target rfl target_eq
  · cases ran

theorem updates_of_perform {operation : Operation}
    (ran : (perform programs operation).run machine = (.ok (), after)) :
    Updates programs machine operation after.session := by
  by_cases silent : subject? operation = none
  · rw [session_eq_of_perform silent ran]
    exact .nothing silent
  · cases operation with
    | set name value =>
      rw [perform] at ran
      cases ran
      exact .binds name _ rfl rfl
    | execute token capture =>
      cases capture with
      | none => exact absurd rfl silent
      | some name => exact updates_of_capture ran
    | read source target =>
      cases target with
      | none => exact absurd rfl silent
      | some name => exact updates_of_read ran
    | find pattern group => exact updates_of_find ran
    | changeDirectory path => exact updates_of_change_directory ran
    | _ => exact absurd rfl silent

end Perform

/-! ## One instruction -/

theorem Updates.of_record_event {programs : Programs} {machine : Machine} {event : Event}
    {operation : Operation} {session : Session}
    (updates : Updates programs (machine.record (.event event)) operation session) :
    Updates programs machine operation session := by
  cases updates with
  | binds name value subject value_eq =>
    refine .binds name value subject ?_
    unfold BoundValue at value_eq ⊢
    rw [Machine.launches_record_event] at value_eq
    exact value_eq
  | fills group paths subject found => exact .fills group paths subject found
  | enters directory subject entered => exact .enters directory subject entered
  | nothing subject => exact .nothing subject

theorem updates_of_instruction {programs : Programs} {instruction : Instruction}
    {machine after : Machine}
    (ran : (execute programs instruction).run machine = (.ok (), after)) :
    Updates programs machine instruction.operation after.session := by
  rw [execute, run_bind, run_report] at ran
  dsimp only at ran
  rw [run_bind_eq_ok_iff] at ran
  obtain ⟨_, performed, performRan, writeRan⟩ := ran
  have session_eq := (after_write writeRan).2.1
  rw [session_eq]
  exact (updates_of_perform performRan).of_record_event

/-! ## Runs -/

/-- A step of a run: an instruction and the machine on which it is executed. -/
structure Step where
  machine : Machine
  instruction : Instruction

namespace Step

def operation (step : Step) : Operation := step.instruction.operation

end Step

/-- The steps of a run that succeed: all of them, or those before the one that stops it. -/
def succeeded (programs : Programs) : List Instruction → Machine → List Step
  | [], _ => []
  | instruction :: later, machine =>
    match (execute programs instruction).run machine with
    | (.ok _, after) => ⟨machine, instruction⟩ :: succeeded programs later after
    | (.error _, _) => []

/-- The step sets a part of the session. -/
def About (subject : Subject) (step : Step) : Prop := subject? step.operation = some subject

/-- What a part of the session is after some steps: what the last step that sets it gives, or what it
was before if there is none. -/
inductive Latest {α : Type} (subject : Subject) (gives : Step → α → Prop) (before : α) :
    List Step → α → Prop where
  | untouched {steps : List Step} (none : ∀ step ∈ steps, ¬ About subject step) :
    Latest subject gives before steps before
  | last (earlier : List Step) (step : Step) (later : List Step) (after : α)
    (about : About subject step) (gives_eq : gives step after)
    (none : ∀ other ∈ later, ¬ About subject other) :
    Latest subject gives before (earlier ++ step :: later) after

/-- What one step does to a part of the session: what it gives, if it sets that part, and nothing
otherwise. -/
def Decides {α : Type} (subject : Subject) (gives : Step → α → Prop) (step : Step)
    (before after : α) : Prop :=
  About subject step ∧ gives step after ∨ ¬ About subject step ∧ after = before

theorem Latest.cons {α : Type} {subject : Subject} {gives : Step → α → Prop}
    {before middle after : α} {step : Step} {steps : List Step}
    (decides : Decides subject gives step before middle)
    (latest : Latest subject gives middle steps after) :
    Latest subject gives before (step :: steps) after := by
  rcases decides with ⟨about, gives_eq⟩ | ⟨silent, rfl⟩
  · cases latest with
    | untouched none => exact .last [] step steps middle about gives_eq none
    | last earlier other later _ aboutOther otherGives none =>
      exact .last (step :: earlier) other later after aboutOther otherGives none
  · cases latest with
    | untouched none =>
      apply Latest.untouched
      rw [List.forall_mem_cons]
      exact ⟨silent, none⟩
    | last earlier other later _ aboutOther otherGives none =>
      exact .last (step :: earlier) other later after aboutOther otherGives none

def GivesValue (programs : Programs) (step : Step) (value : Option Text) : Prop :=
  ∃ text, BoundValue programs step.machine step.operation text ∧ value = some text

def GivesPaths (step : Step) (paths : List Path) : Prop :=
  FoundPaths step.machine step.operation paths

def GivesDirectory (step : Step) (directory : Path) : Prop :=
  EnteredDirectory step.machine step.operation directory

section Updates

variable {programs : Programs} {step : Step} {after : Session}

theorem decides_of_other {α : Type} {gives : Step → α → Prop} {value : α} {subject : Subject}
    {found : Option Subject} (found_eq : subject? step.operation = found)
    (other : found ≠ some subject) : Decides subject gives step value value := by
  refine .inr ⟨?_, rfl⟩
  rw [About, found_eq]
  exact other

theorem Updates.decides_variable (name : Text)
    (updates : Updates programs step.machine step.operation after) :
    Decides (.variable name) (GivesValue programs) step (step.machine.session.valueOf? name)
      (after.valueOf? name) := by
  cases updates with
  | binds bound value subject value_eq =>
    by_cases same : name = bound
    · subst same
      exact .inl ⟨subject, value, value_eq, Session.value_of?_set_variable_self _ _ _⟩
    · rw [Session.value_of?_set_variable_of_ne _ value same]
      apply decides_of_other subject
      intro about
      injection about with about
      injection about with about
      exact same about.symm
  | fills group paths subject found => exact decides_of_other subject nofun
  | enters directory subject entered => exact decides_of_other subject nofun
  | nothing subject => exact decides_of_other subject nofun

theorem Updates.decides_group (group : Text)
    (updates : Updates programs step.machine step.operation after) :
    Decides (.group group) GivesPaths step (step.machine.session.group group)
      (after.group group) := by
  cases updates with
  | binds bound value subject value_eq => exact decides_of_other subject nofun
  | fills filled paths subject found =>
    by_cases same : group = filled
    · subst same
      refine .inl ⟨subject, ?_⟩
      rw [Session.group_set_group_self]
      exact found
    · rw [Session.group_set_group_of_ne _ paths same]
      apply decides_of_other subject
      intro about
      injection about with about
      injection about with about
      exact same about.symm
  | enters directory subject entered => exact decides_of_other subject nofun
  | nothing subject => exact decides_of_other subject nofun

theorem Updates.decides_directory (updates : Updates programs step.machine step.operation after) :
    Decides .directory GivesDirectory step step.machine.session.directory after.directory := by
  cases updates with
  | binds bound value subject value_eq => exact decides_of_other subject nofun
  | fills group paths subject found => exact decides_of_other subject nofun
  | enters directory subject entered => exact .inl ⟨subject, entered⟩
  | nothing subject => exact decides_of_other subject nofun

theorem Updates.home_eq (updates : Updates programs step.machine step.operation after) :
    after.home = step.machine.session.home := by
  cases updates <;> rfl

end Updates

/-- The session is what the successful steps of a run made of it: a variable has the value that the
last of them that binds it gives, a group has the paths of the last search into it, the directory is
the one entered last, and what no step set is as it was. -/
structure IsHistory (programs : Programs) (before : Session) (steps : List Step) (after : Session) :
    Prop where
  variable_eq : ∀ name, Latest (.variable name) (GivesValue programs) (before.valueOf? name) steps
    (after.valueOf? name)
  group_eq : ∀ group, Latest (.group group) GivesPaths (before.group group) steps
    (after.group group)
  directory_eq : Latest .directory GivesDirectory before.directory steps after.directory
  home_eq : after.home = before.home

theorem IsHistory.nil (programs : Programs) (session : Session) :
    IsHistory programs session [] session where
  variable_eq _ := .untouched (List.forall_mem_nil _)
  group_eq _ := .untouched (List.forall_mem_nil _)
  directory_eq := .untouched (List.forall_mem_nil _)
  home_eq := rfl

theorem IsHistory.cons {programs : Programs} (step : Step) {steps : List Step}
    {middle after : Session} (updates : Updates programs step.machine step.operation middle)
    (history : IsHistory programs middle steps after) :
    IsHistory programs step.machine.session (step :: steps) after where
  variable_eq name := (history.variable_eq name).cons (updates.decides_variable name)
  group_eq group := (history.group_eq group).cons (updates.decides_group group)
  directory_eq := history.directory_eq.cons updates.decides_directory
  home_eq := history.home_eq.trans updates.home_eq

/-- After every run, unless its output stopped it, the session is the history of the steps that
succeeded. -/
theorem session_is_history (programs : Programs) (instructions : List Instruction)
    (machine after : Machine) (result : Except RunFault Unit)
    (ran : (executeAll programs instructions).run machine = (result, after))
    (other : result ≠ .error .outputFull) :
    IsHistory programs machine.session (succeeded programs instructions machine) after.session := by
  induction instructions generalizing machine with
  | nil =>
    cases ran
    exact .nil programs _
  | cons instruction later ih =>
    rw [run_execute_all_cons] at ran
    rw [succeeded]
    rcases executed : (execute programs instruction).run machine with ⟨fault | answer, middle⟩
    · rw [executed] at ran
      cases ran
      have blameless : fault ≠ .outputFull := by
        rintro rfl
        exact other rfl
      rw [(execute_stopped executed blameless).1]
      exact .nil programs _
    · rw [executed] at ran
      exact IsHistory.cons ⟨machine, instruction⟩ (updates_of_instruction executed) (ih middle ran)

/-- A command without words stops a run in which a variable was set twice: the second value stays. -/
theorem session_is_history_before_stop :
    let instructions : List Instruction :=
      [⟨1, .set ['x'] ⟨.word, ['a']⟩, []⟩, ⟨2, .set ['x'] ⟨.quoted, ['"', 'b', '"']⟩, []⟩,
        ⟨3, .execute ⟨.quoted, ['"', '"']⟩ (some ['x']), []⟩]
    let machine := Machine.start (.start ['/'] none) ⟨[], []⟩ none
    ∃ after, (executeAll onceSuccessful instructions).run machine =
        (.error (.command [] .noWords), after) ∧
      IsHistory onceSuccessful machine.session (succeeded onceSuccessful instructions machine)
        after.session ∧
      (succeeded onceSuccessful instructions machine).map (·.instruction.line) = [1, 2] ∧
      after.session.valueOf? ['x'] = some ['b'] := by
  intro instructions machine
  have ran : (executeAll onceSuccessful instructions).run machine =
      (.error (.command [] .noWords), _) := Prod.ext rfl rfl
  exact ⟨_, ran, session_is_history _ _ _ _ _ ran nofun, rfl, rfl⟩

end LineScript.Engine
