import LineScript.Proofs.Engine.AbsolutePaths
import LineScript.Proofs.Engine.Copying
import LineScript.Proofs.Engine.Storage

/-!
# The events of file operations

Some events announce an instruction, and some tell that a file operation has succeeded. An operation
announces nothing, and it tells of its file operation exactly if the host does what that asks for, once
and whatever becomes of the operation afterwards.
-/

namespace LineScript

set_option autoImplicit false

variable {α β : Type}

/-! ## Marks -/

namespace Event

/-- Whether an event announces an instruction. -/
def isAnnouncement : Event → Bool
  | .executing _ _ => true
  | _ => false

/-- Whether an event tells that a file operation has succeeded. -/
def isOutcome : Event → Bool
  | .changedDirectory _ | .copied _ _ | .moved _ _ | .readFrom _ | .wroteTo _ | .appendedTo _
  | .found _ _ _ => true
  | _ => false

/-- Whether an event is of one of these two kinds. -/
def isMark (event : Event) : Bool := event.isAnnouncement || event.isOutcome

theorem is_mark_of_is_outcome {event : Event} (outcome : event.isOutcome = true) :
    event.isMark = true := by
  rw [isMark, outcome, Bool.or_true]

theorem is_announcement_of_is_outcome {event : Event} (outcome : event.isOutcome = true) :
    event.isAnnouncement = false := by
  cases event <;> first | rfl | cases outcome

end Event

/-- From one machine to another the transcript grows, and these are the marks among the events that it
grows by. -/
def Machine.Marks (before : Machine) (marks : List Event) (after : Machine) : Prop :=
  ∃ added, after.transcript = before.transcript ++ added ∧
    (Transcript.events added).filter Event.isMark = marks

namespace Machine

theorem Marks.of_transcript_eq {before after : Machine}
    (kept : after.transcript = before.transcript) : before.Marks [] after :=
  ⟨[], by rw [kept, List.append_nil], rfl⟩

theorem Marks.trans {before middle after : Machine} {first second : List Event}
    (early : before.Marks first middle) (late : middle.Marks second after) :
    before.Marks (first ++ second) after := by
  obtain ⟨added, transcript_eq, rfl⟩ := early
  obtain ⟨further, furtherTranscript_eq, rfl⟩ := late
  refine ⟨added ++ further, ?_, ?_⟩
  · rw [furtherTranscript_eq, transcript_eq, List.append_assoc]
  · rw [Transcript.events_append, List.filter_append]

theorem marks_record_event (machine : Machine) (event : Event) :
    machine.Marks ([event].filter Event.isMark) (machine.record (.event event)) :=
  ⟨[.event event], rfl, rfl⟩

theorem marks_record_outcome (machine : Machine) {event : Event}
    (outcome : event.isOutcome = true) : machine.Marks [event] (machine.record (.event event)) := by
  have marks := machine.marks_record_event event
  rwa [List.filter_cons_of_pos (Event.is_mark_of_is_outcome outcome), List.filter_nil] at marks

theorem marks_record_unmarked (machine : Machine) {entry : Entry}
    (unmarked : ∀ event, entry = .event event → event.isMark = false) :
    machine.Marks [] (machine.record entry) := by
  refine ⟨[entry], rfl, ?_⟩
  cases entry with
  | event event => simp [Transcript.events, unmarked event rfl]
  | output bytes => rfl
  | call call => rfl

end Machine

namespace Action

/-- An action that neither announces an instruction nor tells that a file operation has succeeded. -/
def IsUnmarked (action : Action α) : Prop :=
  ∀ machine : Machine, machine.Marks [] (action.run machine).2

namespace IsUnmarked

theorem of_keeps {action : Action α}
    (keeps : ∀ machine, (action.run machine).2.transcript = machine.transcript) :
    IsUnmarked action := fun machine => .of_transcript_eq (keeps machine)

theorem pure (answer : α) : IsUnmarked (Pure.pure answer : Action α) := of_keeps fun _ => rfl

theorem throw (fault : RunFault) : IsUnmarked (MonadExcept.throw fault : Action α) :=
  of_keeps fun _ => rfl

theorem session : IsUnmarked Action.session := of_keeps fun _ => rfl

theorem files : IsUnmarked Action.files := of_keeps fun _ => rfl

theorem launches : IsUnmarked Action.launches := of_keeps fun _ => rfl

theorem update_session (update : Session → Session) : IsUnmarked (Action.updateSession update) :=
  of_keeps fun _ => rfl

theorem note (call : Call) : IsUnmarked (modify (·.record (.call call)) : Action Unit) :=
  fun machine => machine.marks_record_unmarked fun _ => nofun

theorem report {event : Event} (unmarked : event.isMark = false) :
    IsUnmarked (Action.report event) := by
  intro machine
  rw [run_report]
  apply machine.marks_record_unmarked
  rintro _ ⟨⟩
  exact unmarked

theorem write_bytes (bytes : List UInt8) : IsUnmarked (Action.writeBytes bytes) := by
  intro machine
  rw [run_write_bytes]
  cases machine.room with
  | none => exact machine.marks_record_unmarked fun _ => nofun
  | some room => exact machine.marks_record_unmarked fun _ => nofun

theorem write (text : Text) : IsUnmarked (Action.write text) := write_bytes _

theorem ask (call : Call) (question : FileSystem → α) : IsUnmarked (Action.ask call question) := by
  intro machine
  rw [run_ask]
  exact machine.marks_record_unmarked fun _ => nofun

theorem demand (call : Call) (question : FileSystem → Except HostError α)
    (blame : HostError → RunFault) :
    IsUnmarked (Action.demand (Action.ask call question) blame) := by
  intro machine
  rw [run_demand]
  exact machine.marks_record_unmarked fun _ => nofun

theorem attempt (call : Call) (change : FileSystem → Except HostError α × FileSystem)
    (blame : HostError → RunFault) : IsUnmarked (Action.attempt call change blame) := by
  intro machine
  rw [run_attempt]
  exact machine.marks_record_unmarked fun _ => nofun

theorem change (call : Call) (update : FileSystem → Except HostError FileSystem)
    (blame : HostError → RunFault) : IsUnmarked (Action.change call update blame) :=
  attempt call _ blame

theorem bind {first : Action α} {next : α → Action β} (unmarked : IsUnmarked first)
    (nextUnmarked : ∀ answer, IsUnmarked (next answer)) : IsUnmarked (first >>= next) := by
  intro machine
  have early := unmarked machine
  rw [run_bind]
  generalize first.run machine = ran at early ⊢
  rcases ran with ⟨fault | answer, middle⟩
  · exact early
  · exact early.trans (nextUnmarked answer middle)

theorem for_m {entries : List α} {body : α → Action Unit}
    (unmarked : ∀ entry, IsUnmarked (body entry)) : IsUnmarked (entries.forM body) := by
  induction entries with
  | nil => exact pure ()
  | cons entry rest ih => exact bind (unmarked entry) fun _ => ih

section Bind

variable {first : Action α} {next : α → Action β} {machine middle : Machine} {marks : List Event}

/-- What comes after an unmarked action that succeeds decides the marks of both. -/
theorem marks_bind_of_ok {answer : α} (unmarked : IsUnmarked first)
    (ran : first.run machine = (.ok answer, middle))
    (rest : middle.Marks marks ((next answer).run middle).2) :
    machine.Marks marks ((first >>= next).run machine).2 := by
  have early := unmarked machine
  rw [ran] at early
  rw [run_bind, ran]
  exact early.trans rest

theorem marks_bind_of_error {fault : RunFault} (unmarked : IsUnmarked first)
    (stopped : (first.run machine).1 = .error fault) :
    machine.Marks [] ((first >>= next).run machine).2 := by
  have early := unmarked machine
  rw [run_bind]
  rcases ran : first.run machine with ⟨other | answer, middle⟩
  · rw [ran] at early
    exact early
  · rw [ran] at stopped
    cases stopped

end Bind

end IsUnmarked

end Action

/-! ## What is recorded does not matter -/

/-- Two machines that differ at most in what has been recorded, with as many processes started on the
one as on the other. -/
structure Machine.SameButRecord (first second : Machine) : Prop where
  session_eq : first.session = second.session
  files_eq : first.files = second.files
  room_eq : first.room = second.room
  launches_eq : first.transcript.launches = second.transcript.launches

theorem Machine.SameButRecord.record {first second : Machine} (same : SameButRecord first second)
    (entry : Entry) : SameButRecord (first.record entry) (second.record entry) := by
  refine ⟨same.session_eq, same.files_eq, same.room_eq, ?_⟩
  simp only [Machine.record, Transcript.launches_append, same.launches_eq]

theorem Machine.same_but_record_record_events (machine : Machine) (events : List Event) :
    machine.SameButRecord (machine.recordEvents events) :=
  ⟨by simp, by simp, by simp, by simp⟩

theorem Machine.same_but_record_record_call (machine : Machine) {call : Call}
    (silent : call.isLaunch = false) : machine.SameButRecord (machine.record (.call call)) := by
  refine ⟨rfl, rfl, rfl, ?_⟩
  simp [Machine.record, Transcript.launches, Transcript.calls, silent]

theorem Machine.SameButRecord.trans {first second third : Machine}
    (early : SameButRecord first second) (late : SameButRecord second third) :
    SameButRecord first third :=
  ⟨early.session_eq.trans late.session_eq, early.files_eq.trans late.files_eq,
    early.room_eq.trans late.room_eq, early.launches_eq.trans late.launches_eq⟩

/-- Of all that has been recorded, an action reads the number of processes alone. So events change
nothing in a run. -/
theorem Action.IsComposed.unaffected {changes updates : Prop} {action : Action α}
    (composed : IsComposed changes updates action) {first second : Machine}
    (same : first.SameButRecord second) :
    (action.run first).1 = (action.run second).1 ∧
      (action.run first).2.SameButRecord (action.run second).2 := by
  induction composed generalizing first second with
  | pure answer => exact ⟨rfl, same⟩
  | throw fault => exact ⟨rfl, same⟩
  | session => exact ⟨congrArg Except.ok same.session_eq, same⟩
  | files => exact ⟨congrArg Except.ok same.files_eq, same⟩
  | launches => exact ⟨congrArg Except.ok same.launches_eq, same⟩
  | updateSession permitted update =>
    rw [run_update_session, run_update_session]
    exact ⟨rfl, congrArg update same.session_eq, same.files_eq, same.room_eq, same.launches_eq⟩
  | report event => exact ⟨rfl, same.record _⟩
  | note call => exact ⟨rfl, same.record _⟩
  | writeBytes bytes =>
    rw [run_write_bytes, run_write_bytes, same.room_eq]
    cases second.room with
    | none => exact ⟨rfl, same.record _⟩
    | some room =>
      have recorded := same.record (.output (bytes.take room))
      exact ⟨rfl, recorded.session_eq, recorded.files_eq, rfl, recorded.launches_eq⟩
  | ask call question =>
    exact ⟨congrArg (fun files => Except.ok (question files)) same.files_eq, same.record _⟩
  | attempt permitted call change blame =>
    rw [run_attempt, run_attempt, same.files_eq]
    have recorded := same.record (.call call)
    exact ⟨rfl, recorded.session_eq, rfl, recorded.room_eq, recorded.launches_eq⟩
  | @bind α β action next _ _ ih nextIh =>
    obtain ⟨result_eq, middleSame⟩ := ih same
    rw [run_bind, run_bind]
    generalize action.run first = ran at result_eq middleSame ⊢
    generalize action.run second = ranToo at result_eq middleSame ⊢
    rcases ran with ⟨result, middle⟩
    rcases ranToo with ⟨resultToo, middleToo⟩
    obtain rfl : result = resultToo := result_eq
    rcases result with fault | answer
    · exact ⟨rfl, middleSame⟩
    · exact nextIh answer middleSame

namespace Engine

open LineScript.Action

/-! ## What operations do on their way -/

section Unmarked

variable (programs : Programs)

theorem report_unbound_is_unmarked (tokens : List Token) : IsUnmarked (reportUnbound tokens) := by
  refine .bind .session fun session => .for_m fun token => ?_
  split
  · exact .report rfl
  · exact .pure ()

theorem resolve_is_unmarked (token : Token) : IsUnmarked (resolve token) :=
  .bind (report_unbound_is_unmarked [token]) fun _ => .bind .session fun _ => .pure _

theorem resolve_path_is_unmarked (token : Token) : IsUnmarked (resolvePath token) :=
  .bind (report_unbound_is_unmarked [token]) fun _ => .bind .session fun _ => .pure _

theorem ensure_present_is_unmarked (path : Path) : IsUnmarked (ensurePresent path) :=
  .bind (.demand _ _ _) fun _ => .pure _

theorem ensure_absent_is_unmarked (path : Path) : IsUnmarked (ensureAbsent path) := by
  refine .bind (.ask _ _) fun answer => ?_
  split
  · exact .throw _
  · exact .pure ()
  · exact .throw _

theorem resolve_command_is_unmarked (token : Token) : IsUnmarked (resolveCommand token) := by
  refine .bind (resolve_is_unmarked token) fun text => .bind .session fun session => ?_
  split
  · exact .pure _
  · exact .throw _

theorem run_command_is_unmarked (command : Command) : IsUnmarked (runCommand programs command) := by
  refine .bind (.report rfl) fun _ => .bind .session fun session => .bind .launches fun started => ?_
  refine .bind (.attempt _ _ _) fun completion => ?_
  split
  · exact .pure _
  · exact .throw _

theorem run_each_is_unmarked (group : Text) (command : Token) :
    IsUnmarked (runEach programs group command) := by
  refine .bind .session fun session => ?_
  split
  · exact .report rfl
  · refine .bind (resolve_command_is_unmarked command) fun template => .for_m fun entry => ?_
    refine .bind (.report rfl) fun _ => ?_
    exact .bind (run_command_is_unmarked programs _) fun _ => .write _

theorem copy_tree_is_unmarked (blame : HostError → RunFault) (source destination : Path) :
    IsUnmarked (copyTree blame source destination) := by
  induction source, destination using copyTree.induct with
  | case1 source destination ih =>
    rw [copyTree]
    refine .bind (.ask _ _) fun descends => ?_
    split
    · rename_i within
      refine .bind (.change _ _ _) fun _ => .bind (.demand _ _ _) fun entries => ?_
      exact .for_m fun entry => ih descends within entry.1
    · exact .change _ _ _

theorem transfer_paths_is_unmarked (source destination : Token) :
    IsUnmarked (transferPaths source destination) := by
  refine .bind (resolve_path_is_unmarked source) fun source => ?_
  refine .bind (resolve_path_is_unmarked destination) fun destination => ?_
  refine .bind (ensure_present_is_unmarked source) fun _ => ?_
  exact .bind (ensure_absent_is_unmarked destination) fun _ => .pure _

theorem report_search_is_unmarked (steps : List SearchStep) : IsUnmarked (reportSearch steps) := by
  refine .for_m fun step => ?_
  cases step with
  | listing directory => exact .note _
  | unlistable directory error => exact .report rfl
  | hit path => exact .pure ()

end Unmarked

/-! ## File operations -/

/-- Something stands at the one path and nothing at the other. -/
def IsTransfer (files : FileSystem) (source destination : Path) : Prop :=
  (∃ entry, files.linkStatus source = .ok entry) ∧
    files.linkStatus destination = .error .noSuchEntry

/-- The file operation of an operation succeeds on a machine, and this event tells of it: a directory
is entered, a tree is copied, an entry is moved, a text is read, written or appended, or a search has
been made. -/
def Achieves (machine : Machine) (operation : Operation) (event : Event) : Prop :=
  let session := machine.session
  let files := machine.files
  match operation with
  | .changeDirectory path => ∃ directory, files.canonical (session.resolvePath path) = .ok directory ∧
      files.isDirectory directory = true ∧ event = .changedDirectory directory
  | .copy source destination =>
    let source := session.resolvePath source
    let destination := session.resolvePath destination
    IsTransfer files source destination ∧
      ((copyTree (.host .copyTo destination) source destination).run machine).1 = .ok () ∧
      event = .copied source destination
  | .move source destination =>
    let source := session.resolvePath source
    let destination := session.resolvePath destination
    IsTransfer files source destination ∧ (∃ changed, files.rename source destination = .ok changed) ∧
      event = .moved source destination
  | .read source _ => (∃ text, files.textOf (session.resolvePath source) = .ok text) ∧
      event = .readFrom (session.resolvePath source)
  | .write path data =>
    (∃ changed, files.write (session.resolvePath path) (Utf8.encode (session.resolve data)) =
      .ok changed) ∧ event = .wroteTo (session.resolvePath path)
  | .append path data =>
    (∃ changed, files.append (session.resolvePath path) (Utf8.encode (session.resolve data)) =
      .ok changed) ∧ event = .appendedTo (session.resolvePath path)
  | .find pattern group =>
    ∃ paths, Search.find files (session.resolve pattern) session.directory = .ok paths ∧
      event = .found paths.length (session.resolve pattern) group
  | _ => False

/-- The outcomes that are told of an operation: the one of its file operation if that succeeds, and none
otherwise. -/
inductive Concludes (machine : Machine) (operation : Operation) : List Event → Prop where
  | success (event : Event) (achieved : Achieves machine operation event) :
    Concludes machine operation [event]
  | nothing (unachieved : ∀ event, ¬ Achieves machine operation event) :
    Concludes machine operation []

section Achieves

variable {first second : Machine} {operation : Operation} {event : Event} {outcomes : List Event}

theorem is_outcome_of_achieves (achieved : Achieves first operation event) :
    event.isOutcome = true := by
  cases operation with
  | changeDirectory path =>
    obtain ⟨directory, -, -, rfl⟩ := achieved
    rfl
  | copy source destination | move source destination =>
    obtain ⟨-, -, rfl⟩ := achieved
    rfl
  | read source target =>
    obtain ⟨-, rfl⟩ := achieved
    rfl
  | write path data | append path data =>
    obtain ⟨-, rfl⟩ := achieved
    rfl
  | find pattern group =>
    obtain ⟨paths, -, rfl⟩ := achieved
    rfl
  | _ => exact achieved.elim

theorem copy_tree_result_eq (blame : HostError → RunFault) (source destination : Path)
    (same : first.SameButRecord second) :
    ((copyTree blame source destination).run first).1 =
      ((copyTree blame source destination).run second).1 := by
  have composed : IsComposed True False (copyTree blame source destination) :=
    copy_tree_is_composed trivial blame source destination
  exact (composed.unaffected same).1

/-- Whether a file operation succeeds does not depend on what has been recorded. -/
theorem achieves_congr (same : first.SameButRecord second) :
    Achieves first operation event ↔ Achieves second operation event := by
  cases operation with
  | copy source destination =>
    simp only [Achieves, copy_tree_result_eq _ _ _ same, same.session_eq, same.files_eq]
  | _ => simp only [Achieves, same.session_eq, same.files_eq]

theorem concludes_congr (same : first.SameButRecord second)
    (concludes : Concludes second operation outcomes) : Concludes first operation outcomes := by
  cases concludes with
  | success event achieved => exact .success event ((achieves_congr same).mpr achieved)
  | nothing unachieved =>
    exact .nothing fun event achieved => unachieved event ((achieves_congr same).mp achieved)

end Achieves

/-! ## Every operation tells of its file operation -/

/-- The marks of an action on a machine are as they have to be. -/
def Tells (action : Action Unit) (machine : Machine) (permitted : List Event → Prop) : Prop :=
  ∃ marks, machine.Marks marks (action.run machine).2 ∧ permitted marks

namespace Tells

variable {first : Action α} {next : α → Action Unit} {machine middle : Machine}
  {permitted : List Event → Prop}

theorem of_is_unmarked {action : Action Unit} (unmarked : IsUnmarked action) (silent : permitted []) :
    Tells action machine permitted := ⟨[], unmarked machine, silent⟩

theorem bind_of_ok {answer : α} (unmarked : IsUnmarked first)
    (ran : first.run machine = (.ok answer, middle)) (rest : Tells (next answer) middle permitted) :
    Tells (first >>= next) machine permitted := by
  obtain ⟨marks, marked, allowed⟩ := rest
  exact ⟨marks, unmarked.marks_bind_of_ok ran marked, allowed⟩

theorem bind_of_error {fault : RunFault} (unmarked : IsUnmarked first)
    (stopped : (first.run machine).1 = .error fault) (silent : permitted []) :
    Tells (first >>= next) machine permitted :=
  ⟨[], unmarked.marks_bind_of_error stopped, silent⟩

theorem of_is_unmarked_of_error {second : Action β} {next : β → Action Unit}
    (unmarked : IsUnmarked first) (secondUnmarked : IsUnmarked second)
    (stops : ∀ answer middle, first.run machine = (.ok answer, middle) →
      ∃ fault, (second.run middle).1 = .error fault) (silent : permitted []) :
    Tells (first >>= fun _ => second >>= next) machine permitted := by
  rcases ran : first.run machine with ⟨fault | answer, middle⟩
  · exact .bind_of_error unmarked (by rw [ran]) silent
  · obtain ⟨fault, stopped⟩ := stops answer middle ran
    exact .bind_of_ok unmarked ran (.bind_of_error secondUnmarked stopped silent)

theorem report_bind {event : Event} {next : Unit → Action Unit} (outcome : event.isOutcome = true)
    (unmarked : IsUnmarked (next ())) (told : permitted [event]) :
    Tells (Action.report event >>= next) machine permitted := by
  refine ⟨[event], ?_, told⟩
  rw [run_bind, run_report]
  exact (machine.marks_record_outcome outcome).trans (unmarked _)

theorem report {event : Event} (outcome : event.isOutcome = true) (told : permitted [event]) :
    Tells (Action.report event) machine permitted :=
  ⟨[event], machine.marks_record_outcome outcome, told⟩

end Tells

section Perform

variable (programs : Programs) (machine : Machine)

theorem change_directory_tells (token : Token) :
    Tells (perform programs (.changeDirectory token)) machine
      (Concludes machine (.changeDirectory token)) := by
  rw [perform]
  refine .bind_of_ok (resolve_path_is_unmarked token) (run_resolve_path token machine) ?_
  have files_eq := machine.files_record_events (unboundEvents machine.session [token])
  generalize machine.recordEvents _ = resolved at files_eq ⊢
  rcases found : machine.files.canonical (machine.session.resolvePath token) with error | directory
  · refine .bind_of_error (.demand _ _ _) (by rw [run_demand, files_eq, found]; rfl) (.nothing ?_)
    rintro event ⟨directory, reached, -⟩
    cases found.symm.trans reached
  · have ran := run_demand (.canonical (machine.session.resolvePath token))
      (·.canonical (machine.session.resolvePath token))
      (fun error => .directory (machine.session.resolvePath token) (.unreachable error)) resolved
    rw [files_eq, found] at ran
    refine .bind_of_ok (.demand _ _ _) ran (.bind_of_ok (.ask _ _) (run_ask _ _ _) ?_)
    rw [Machine.files_record, files_eq]
    by_cases standing : machine.files.isDirectory directory = true
    · rw [if_pos standing]
      exact .report_bind rfl (.update_session _) (.success _ ⟨directory, found, standing, rfl⟩)
    · rw [if_neg standing]
      refine .of_is_unmarked (.throw _) (.nothing ?_)
      rintro event ⟨other, reached, isDirectory, -⟩
      cases found.symm.trans reached
      exact standing isDirectory

theorem read_tells (token : Token) (target : Option Text) :
    Tells (perform programs (.read token target)) machine (Concludes machine (.read token target)) := by
  rw [perform]
  refine .bind_of_ok (resolve_path_is_unmarked token) (run_resolve_path token machine) ?_
  have files_eq := machine.files_record_events (unboundEvents machine.session [token])
  generalize machine.recordEvents _ = resolved at files_eq ⊢
  rcases readable : machine.files.textOf (machine.session.resolvePath token) with error | text
  · -- Whether the path is found missing before or is refused now, there is no text.
    refine .of_is_unmarked_of_error (ensure_present_is_unmarked _) (.demand _ _ _) ?_ (.nothing ?_)
    · intro node middle present
      have kept : IsComposed False False (ensurePresent (machine.session.resolvePath token)) :=
        ensure_present_is_composed _
      rw [run_demand, kept.files_eq present, files_eq, readable]
      exact ⟨_, rfl⟩
    · rintro event ⟨⟨text, read⟩, -⟩
      cases readable.symm.trans read
  · obtain ⟨entry, present⟩ := FileSystem.exists_link_status_of_text_of readable
    rw [← files_eq] at present readable
    obtain ⟨node, presentRan⟩ := exists_run_ensure_present present
    have ran := run_demand (.readText (machine.session.resolvePath token))
      (·.textOf (machine.session.resolvePath token))
      (.host .read (machine.session.resolvePath token))
      (resolved.record (.call (.linkStatus (machine.session.resolvePath token))))
    rw [Machine.files_record, readable] at ran
    refine .bind_of_ok (ensure_present_is_unmarked _) presentRan (.bind_of_ok (.demand _ _ _) ran ?_)
    rw [files_eq] at readable
    refine .report_bind rfl ?_ (.success _ ⟨⟨text, readable⟩, rfl⟩)
    cases target with
    | some name => exact .update_session _
    | none => exact .write _

theorem storing_tells {operation : Operation} (token data : Token) (event : Path → Event)
    (call : Path → Call) (update : Path → Text → FileSystem → Except HostError FileSystem)
    (attempt : Attempt) (outcome : ∀ path, (event path).isOutcome = true)
    (achieves : ∀ told, Achieves machine operation told ↔
      (∃ changed, update (machine.session.resolvePath token) (machine.session.resolve data)
        machine.files = .ok changed) ∧ told = event (machine.session.resolvePath token)) :
    Tells (storing token data event call update attempt) machine (Concludes machine operation) := by
  rw [storing]
  refine .bind_of_ok (resolve_path_is_unmarked token) (run_resolve_path token machine) ?_
  refine .bind_of_ok (resolve_is_unmarked data) (run_resolve data _) ?_
  rw [Machine.session_record_events]
  have files_eq := machine.files_record_events (unboundEvents machine.session [token])
  generalize machine.recordEvents _ = resolved at files_eq ⊢
  have both_eq := resolved.files_record_events (unboundEvents machine.session [data])
  rw [files_eq] at both_eq
  generalize resolved.recordEvents _ = ready at both_eq ⊢
  have ran := run_change (call (machine.session.resolvePath token))
    (update (machine.session.resolvePath token) (machine.session.resolve data))
    (.host attempt (machine.session.resolvePath token)) ready
  rw [both_eq] at ran
  rcases stored : update (machine.session.resolvePath token) (machine.session.resolve data)
      machine.files with error | changed
  · rw [stored] at ran
    refine .bind_of_error (.change _ _ _) (by rw [ran]) (.nothing fun told achieved => ?_)
    obtain ⟨⟨changed, accepted⟩, -⟩ := (achieves told).mp achieved
    cases stored.symm.trans accepted
  · rw [stored] at ran
    refine .bind_of_ok (.change _ _ _) ran (.report (outcome _) (.success _ ?_))
    exact (achieves _).mpr ⟨⟨changed, stored⟩, rfl⟩

theorem find_tells (token : Token) (group : Text) :
    Tells (perform programs (.find token group)) machine (Concludes machine (.find token group)) := by
  rw [perform]
  refine .bind_of_ok (resolve_is_unmarked token) (run_resolve token machine) ?_
  have same := machine.same_but_record_record_events (unboundEvents machine.session [token])
  generalize machine.recordEvents _ = resolved at same ⊢
  rcases parsed : Glob.pieces (machine.session.resolve token) with fault | pieces
  · refine .of_is_unmarked (.throw _) (.nothing ?_)
    rintro event ⟨paths, found, -⟩
    rw [Search.find, parsed] at found
    cases found
  · refine .bind_of_ok .files (run_files _) (.bind_of_ok .session (run_session _) ?_)
    rw [← same.files_eq, ← same.session_eq]
    have reported := run_report_search
      (Search.run machine.files (Glob.accepts pieces) machine.session.directory) resolved
    refine .bind_of_ok (report_search_is_unmarked _) (Prod.ext reported rfl) ?_
    refine .report_bind rfl (.update_session _) (.success _ ⟨_, ?_, rfl⟩)
    rw [Search.find, parsed]
    rfl

theorem exists_run_ensure_absent_error {machine : Machine} {path : Path}
    (standing : machine.files.linkStatus path ≠ .error .noSuchEntry) :
    ∃ fault after, (ensureAbsent path).run machine = (.error fault, after) := by
  rw [ensureAbsent, run_bind, run_ask]
  rcases looked : machine.files.linkStatus path with error | entry
  · cases error with
    | noSuchEntry => exact absurd looked standing
    | _ => exact ⟨_, _, rfl⟩
  · exact ⟨_, _, rfl⟩

/-- The paths of a transfer are found in order, and nothing has happened but that the host was asked, or
the transfer stops. -/
theorem run_transfer_paths (source destination : Token) :
    IsTransfer machine.files (machine.session.resolvePath source)
        (machine.session.resolvePath destination) ∧
      (∃ middle, (transferPaths source destination).run machine =
        (.ok (machine.session.resolvePath source, machine.session.resolvePath destination), middle) ∧
          machine.SameButRecord middle) ∨
    ¬ IsTransfer machine.files (machine.session.resolvePath source)
        (machine.session.resolvePath destination) ∧
      ∃ fault, ((transferPaths source destination).run machine).1 = .error fault := by
  rw [transferPaths, run_bind, run_resolve_path]
  dsimp only
  rw [run_bind, run_resolve_path, Machine.session_record_events]
  dsimp only
  have same := (machine.same_but_record_record_events (unboundEvents machine.session [source])).trans
    (Machine.same_but_record_record_events _ (unboundEvents machine.session [destination]))
  generalize Machine.recordEvents (Machine.recordEvents _ _) _ = resolved at same ⊢
  rcases present : machine.files.linkStatus (machine.session.resolvePath source) with error | entry
  · refine .inr ⟨?_, ?_⟩
    · rintro ⟨⟨entry, standing⟩, -⟩
      cases present.symm.trans standing
    · rw [run_bind, ensurePresent, run_bind, run_demand, ← same.files_eq, present]
      exact ⟨_, rfl⟩
  · have here := present
    rw [same.files_eq] at here
    obtain ⟨node, presentRan⟩ := exists_run_ensure_present here
    have asked := same.trans (resolved.same_but_record_record_call
      (rfl : (Call.linkStatus (machine.session.resolvePath source)).isLaunch = false))
    rw [run_bind, presentRan]
    dsimp only
    generalize resolved.record _ = looked at asked ⊢
    by_cases absent : machine.files.linkStatus (machine.session.resolvePath destination) =
        .error .noSuchEntry
    · refine .inl ⟨⟨⟨entry, present⟩, absent⟩, ?_⟩
      rw [asked.files_eq] at absent
      rw [run_bind, run_ensure_absent absent]
      exact ⟨_, rfl, asked.trans (looked.same_but_record_record_call rfl)⟩
    · refine .inr ⟨fun transfer => absent transfer.2, ?_⟩
      rw [asked.files_eq] at absent
      obtain ⟨fault, after, stopped⟩ := exists_run_ensure_absent_error absent
      rw [run_bind, stopped]
      exact ⟨fault, rfl⟩

theorem copy_tells (source destination : Token) :
    Tells (perform programs (.copy source destination)) machine
      (Concludes machine (.copy source destination)) := by
  rw [perform]
  obtain ⟨transfer, middle, ran, same⟩ | ⟨blocked, fault, stopped⟩ :=
    run_transfer_paths machine source destination
  · refine .bind_of_ok (transfer_paths_is_unmarked source destination) ran ?_
    have result_eq := copy_tree_result_eq (.host .copyTo (machine.session.resolvePath destination))
      (machine.session.resolvePath source) (machine.session.resolvePath destination) same
    rcases copied : ((copyTree (.host .copyTo (machine.session.resolvePath destination))
        (machine.session.resolvePath source) (machine.session.resolvePath destination)).run
          machine).1 with fault | done
    · rw [copied] at result_eq
      refine .bind_of_error (copy_tree_is_unmarked _ _ _) result_eq.symm (.nothing ?_)
      rintro event ⟨-, succeeded, -⟩
      cases copied.symm.trans succeeded
    · rw [copied] at result_eq
      refine .bind_of_ok (copy_tree_is_unmarked _ _ _) (Prod.ext result_eq.symm rfl) ?_
      exact .report rfl (.success _ ⟨transfer, copied, rfl⟩)
  · refine .bind_of_error (transfer_paths_is_unmarked source destination) stopped (.nothing ?_)
    rintro event ⟨transfer, -⟩
    exact blocked transfer

theorem move_tells (source destination : Token) :
    Tells (perform programs (.move source destination)) machine
      (Concludes machine (.move source destination)) := by
  rw [perform]
  obtain ⟨transfer, middle, ran, same⟩ | ⟨blocked, fault, stopped⟩ :=
    run_transfer_paths machine source destination
  · refine .bind_of_ok (transfer_paths_is_unmarked source destination) ran ?_
    have moving := run_change
      (.rename (machine.session.resolvePath source) (machine.session.resolvePath destination))
      (·.rename (machine.session.resolvePath source) (machine.session.resolvePath destination))
      (.host .moveTo (machine.session.resolvePath destination)) middle
    rw [← same.files_eq] at moving
    rcases moved : machine.files.rename (machine.session.resolvePath source)
        (machine.session.resolvePath destination) with error | changed
    · rw [moved] at moving
      refine .bind_of_error (.change _ _ _) (by rw [moving]) (.nothing ?_)
      rintro event ⟨-, ⟨changed, accepted⟩, -⟩
      cases moved.symm.trans accepted
    · rw [moved] at moving
      refine .bind_of_ok (.change _ _ _) moving ?_
      exact .report rfl (.success _ ⟨transfer, ⟨changed, moved⟩, rfl⟩)
  · refine .bind_of_error (transfer_paths_is_unmarked source destination) stopped (.nothing ?_)
    rintro event ⟨transfer, -⟩
    exact blocked transfer

/-- An operation tells of its file operation if that succeeds, and of nothing else. -/
theorem perform_tells (operation : Operation) :
    Tells (perform programs operation) machine (Concludes machine operation) := by
  cases operation with
  | changeDirectory path => exact change_directory_tells programs machine path
  | copy source destination => exact copy_tells programs machine source destination
  | move source destination => exact move_tells programs machine source destination
  | read source target => exact read_tells programs machine source target
  | find pattern group => exact find_tells programs machine pattern group
  | write path data =>
    rw [perform_write]
    exact storing_tells machine path data _ _ _ _ (fun _ => rfl) fun _ => Iff.rfl
  | append path data =>
    rw [perform_append]
    exact storing_tells machine path data _ _ _ _ (fun _ => rfl) fun _ => Iff.rfl
  | echo arguments =>
    refine .of_is_unmarked ?_ (.nothing fun _ => id)
    rw [perform]
    exact .bind (report_unbound_is_unmarked arguments) fun _ => .bind .session fun _ => .write _
  | execute command capture =>
    refine .of_is_unmarked ?_ (.nothing fun _ => id)
    rw [perform]
    refine .bind (resolve_command_is_unmarked command) fun command => ?_
    refine .bind (run_command_is_unmarked programs command) fun output => ?_
    cases capture with
    | some name => exact .update_session _
    | none => exact .write output
  | set name value => exact .of_is_unmarked (.update_session _) (.nothing fun _ => id)
  | createFile path | makeDirectory path =>
    refine .of_is_unmarked ?_ (.nothing fun _ => id)
    refine .bind (resolve_path_is_unmarked path) fun path => ?_
    refine .bind (ensure_absent_is_unmarked path) fun _ => ?_
    exact .bind (.report rfl) fun _ => .change _ _ _
  | remove path =>
    refine .of_is_unmarked ?_ (.nothing fun _ => id)
    rw [perform]
    refine .bind (resolve_path_is_unmarked path) fun path => ?_
    refine .bind (ensure_present_is_unmarked path) fun node => .bind (.report rfl) fun _ => ?_
    split
    · exact .attempt _ _ _
    · exact .change _ _ _
  | each group command =>
    exact .of_is_unmarked (run_each_is_unmarked programs group command) (.nothing fun _ => id)

end Perform

end Engine

end LineScript
