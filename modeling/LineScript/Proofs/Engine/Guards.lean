import LineScript.Proofs.Engine.Effects
import LineScript.Proofs.Engine.Faults
import LineScript.Proofs.FileSystem.Copies

/-!
# Guards of the file operations

Some operations judge their paths before they ask for a change: something has to stand at the one, or
nothing at the other. The first path that is not as it should be decides the fault, and nothing has
changed then. Once all paths are in order, a refusal of the host is reported as one, whatever it
refuses for, and no other operation reports that something is missing or in the way.
-/

namespace LineScript

set_option autoImplicit false

variable {α : Type}

namespace Machine

/-- Nothing is changed between two machines: the host is asked about entries at most. -/
structure OnlyAsks (before after : Machine) : Prop where
  session_eq : after.session = before.session
  files_eq : after.files = before.files
  calls_eq : ∃ asked, after.transcript.calls = before.transcript.calls ++ asked ∧
    ∀ call ∈ asked, call.isChange = false

theorem OnlyAsks.trans {before middle after : Machine} (first : before.OnlyAsks middle)
    (second : middle.OnlyAsks after) : before.OnlyAsks after := by
  obtain ⟨session_eq, files_eq, asked, calls_eq, harmless⟩ := first
  obtain ⟨laterSession_eq, laterFiles_eq, later, laterCalls_eq, laterHarmless⟩ := second
  refine ⟨laterSession_eq.trans session_eq, laterFiles_eq.trans files_eq, asked ++ later, ?_, ?_⟩
  · rw [laterCalls_eq, calls_eq, List.append_assoc]
  · exact List.forall_mem_append.mpr ⟨harmless, laterHarmless⟩

theorem only_asks_record_events (machine : Machine) (events : List Event) :
    machine.OnlyAsks (machine.recordEvents events) :=
  ⟨by simp, by simp, [], by simp, nofun⟩

theorem only_asks_record_call (machine : Machine) (call : Call) (harmless : call.isChange = false) :
    machine.OnlyAsks (machine.record (.call call)) :=
  ⟨rfl, rfl, [call], by simp, by simpa using harmless⟩

end Machine

namespace Engine

open LineScript.Action

variable {programs : Programs} {machine : Machine} {operation : Operation}

/-! ## Judging paths -/

/-- What an operation demands of a path. -/
inductive Guard where
  | present (path : Path)
  | absent (path : Path)

def Guard.fault? (files : FileSystem) : Guard → Option RunFault
  | .present path =>
    match files.linkStatus path with
    | .ok _ => none
    | .error error =>
      some (if error = .noSuchEntry then .notFound path else .host .inspect path error)
  | .absent path =>
    match files.linkStatus path with
    | .ok _ => some (.alreadyExists path)
    | .error error => if error = .noSuchEntry then none else some (.host .inspect path error)

section Fault

variable {files : FileSystem} {path : Path} {fault : RunFault}

theorem present_fault?_eq_none_iff :
    (Guard.present path).fault? files = none ↔ ∃ entry, files.linkStatus path = .ok entry := by
  rw [Guard.fault?]
  rcases files.linkStatus path with error | entry <;> simp

theorem present_fault?_eq_some_iff :
    (Guard.present path).fault? files = some fault ↔ ∃ error, files.linkStatus path = .error error ∧
      fault = if error = .noSuchEntry then .notFound path else .host .inspect path error := by
  rw [Guard.fault?]
  rcases files.linkStatus path with error | entry <;> simp [eq_comm]

theorem absent_fault?_eq_none_iff :
    (Guard.absent path).fault? files = none ↔ files.linkStatus path = .error .noSuchEntry := by
  rw [Guard.fault?]
  rcases files.linkStatus path with error | entry <;> simp

theorem absent_fault?_eq_some_iff :
    (Guard.absent path).fault? files = some fault ↔
      (∃ entry, files.linkStatus path = .ok entry) ∧ fault = .alreadyExists path ∨
        ∃ error ≠ .noSuchEntry, files.linkStatus path = .error error ∧
          fault = .host .inspect path error := by
  rw [Guard.fault?]
  rcases files.linkStatus path with error | entry <;> simp [eq_comm]

end Fault

/-- The demands of an operation, in the order in which they are judged. -/
def guards (session : Session) (operation : Operation) : List Guard :=
  (mustStand? operation).toList.map (fun token => .present (session.resolvePath token)) ++
    (mustNotStand? operation).toList.map fun token => .absent (session.resolvePath token)

/-- The first demand that is not met stops the action before anything has changed; if all are met its
result is as it has to be. -/
def Judges (guards : List Guard) (action : Action Unit) (machine : Machine)
    (goesOn : Except RunFault Unit → Prop) : Prop :=
  match guards.findSome? (Guard.fault? machine.files) with
  | some fault => ∃ after, action.run machine = (.error fault, after) ∧ machine.OnlyAsks after
  | none => goesOn (action.run machine).1

namespace Judges

variable {guards : List Guard} {action : Action Unit} {goesOn : Except RunFault Unit → Prop}
  {before middle : Machine} {path : Path}

theorem of_run_eq {next : Action Unit} (ran : action.run before = next.run middle)
    (asks : before.OnlyAsks middle) (judges : Judges guards next middle goesOn) :
    Judges guards action before goesOn := by
  unfold Judges at judges ⊢
  rw [asks.files_eq] at judges
  rw [ran]
  cases faulty : guards.findSome? (Guard.fault? before.files) with
  | none =>
    rw [faulty] at judges
    exact judges
  | some fault =>
    rw [faulty] at judges
    obtain ⟨after, stopped, later⟩ := judges
    exact ⟨after, stopped, asks.trans later⟩

theorem after_reading {first : Action α} {next : α → Action Unit} {answer : α}
    {events : List Event}
    (ran : first.run before = (.ok answer, before.recordEvents events))
    (judges : ∀ middle : Machine, middle.session = before.session → middle.files = before.files →
      Judges guards (next answer) middle goesOn) :
    Judges guards (first >>= next) before goesOn := by
  have same := before.only_asks_record_events events
  refine of_run_eq ?_ same (judges _ same.session_eq same.files_eq)
  rw [run_bind, ran]

theorem nil (result : goesOn (action.run before).1) : Judges [] action before goesOn := result

theorem report {event : Event} {next : Unit → Action Unit}
    (judges : Judges guards (next ()) (before.record (.event event)) goesOn) :
    Judges guards (Action.report event >>= next) before goesOn := by
  have asks : before.OnlyAsks (before.recordEvents [event]) := before.only_asks_record_events [event]
  refine of_run_eq ?_ asks judges
  rw [run_bind, run_report]
  rfl

theorem stops {guard : Guard} {fault : RunFault} {first : Action α} {next : α → Action Unit}
    (asks : before.OnlyAsks middle) (faulty : guard.fault? before.files = some fault)
    (ran : first.run before = (.error fault, middle)) :
    Judges (guard :: guards) (first >>= next) before goesOn := by
  rw [Judges, List.findSome?_cons, faulty]
  refine ⟨middle, ?_, asks⟩
  rw [run_bind, ran]

theorem passes {guard : Guard} {first : Action α} {next : α → Action Unit} {answer : α}
    (asks : before.OnlyAsks middle) (sound : guard.fault? before.files = none)
    (ran : first.run before = (.ok answer, middle))
    (judges : Judges guards (next answer) middle goesOn) :
    Judges (guard :: guards) (first >>= next) before goesOn := by
  have went : (first >>= next).run before = (next answer).run middle := by
    rw [run_bind, ran]
  have judged := of_run_eq went asks judges
  rwa [Judges, List.findSome?_cons, sound]

theorem ensure_present {next : Node → Action Unit}
    (judges : ∀ location node, before.files.linkStatus path = .ok (location, node) →
      Judges guards (next node) (before.record (.call (.linkStatus path))) goesOn) :
    Judges (.present path :: guards) (Engine.ensurePresent path >>= next) before goesOn := by
  have asked := before.only_asks_record_call (.linkStatus path) rfl
  have ran : (Engine.ensurePresent path).run before =
      (((before.files.linkStatus path).mapError fun error =>
          if error = .noSuchEntry then .notFound path else .host .inspect path error).map (·.2),
        before.record (.call (.linkStatus path))) := by
    rw [Engine.ensurePresent, run_bind, run_demand]
    rcases before.files.linkStatus path with error | entry <;> rfl
  rcases looked : before.files.linkStatus path with error | ⟨location, node⟩
  · rw [looked] at ran
    exact stops asked (by rw [Guard.fault?, looked]) ran
  · rw [looked] at ran
    exact passes asked (by rw [Guard.fault?, looked]) ran (judges location node looked)

theorem ensure_absent {next : Unit → Action Unit}
    (judges : before.files.linkStatus path = .error .noSuchEntry →
      Judges guards (next ()) (before.record (.call (.linkStatus path))) goesOn) :
    Judges (.absent path :: guards) (Engine.ensureAbsent path >>= next) before goesOn := by
  have asked := before.only_asks_record_call (.linkStatus path) rfl
  have ran : (Engine.ensureAbsent path).run before =
      (match (Guard.absent path).fault? before.files with
        | some fault => .error fault
        | none => .ok (),
        before.record (.call (.linkStatus path))) := by
    rw [Engine.ensureAbsent, run_bind, run_ask, Guard.fault?]
    dsimp only
    rcases before.files.linkStatus path with error | entry
    · cases error <;> rfl
    · rfl
  rcases faulty : (Guard.absent path).fault? before.files with _ | fault
  · rw [faulty] at ran
    exact passes asked faulty ran (judges (absent_fault?_eq_none_iff.mp faulty))
  · rw [faulty] at ran
    exact stops asked faulty ran

end Judges

/-! ## Refusals of the host -/

/-- How a fault calls what an operation asks of the host once its paths are in order, and the path that
it names. -/
def attempt? (session : Session) : Operation → Option (Attempt × Path)
  | .createFile path => some (.createFile, session.resolvePath path)
  | .makeDirectory path => some (.makeDirectory, session.resolvePath path)
  | .remove path => some (.remove, session.resolvePath path)
  | .copy _ destination => some (.copyTo, session.resolvePath destination)
  | .move _ destination => some (.moveTo, session.resolvePath destination)
  | .read source _ => some (.read, session.resolvePath source)
  | .write path _ => some (.writeTo, session.resolvePath path)
  | .append path _ => some (.appendTo, session.resolvePath path)
  | _ => none

/-- The host refuses, with this error, what an operation asks of it first. -/
def Refuses (session : Session) (files : FileSystem) (error : HostError) : Operation → Prop
  | .createFile path => files.create (session.resolvePath path) = .error error
  | .makeDirectory path => files.makeDirectory (session.resolvePath path) = .error error
  | .remove path =>
    let path := session.resolvePath path
    match files.linkStatus path with
    | .ok (_, .directory) => (files.removeTree path).1 = .error error
    | _ => files.removeFile path = .error error
  | .copy source destination =>
    let source := session.resolvePath source
    let destination := session.resolvePath destination
    if files.isDirectory source then files.makeDirectory destination = .error error
    else files.copyFile source destination = .error error
  | .move source destination =>
    files.rename (session.resolvePath source) (session.resolvePath destination) = .error error
  | .read source _ => files.textOf (session.resolvePath source) = .error error
  | .write path data =>
    files.write (session.resolvePath path) (Utf8.encode (session.resolve data)) = .error error
  | .append path data =>
    files.append (session.resolvePath path) (Utf8.encode (session.resolve data)) = .error error
  | _ => False

def IsRefusal (attempt : Attempt) (path : Path) (fault : RunFault) : Prop :=
  fault = .outputFull ∨ ∃ error, fault = .host attempt path error

/-- A refusal is reported as it is, and no other fault of the host can come up. -/
structure IsAnswered (attempt : Attempt) (path : Path) (refuses : HostError → Prop)
    (result : Except RunFault Unit) : Prop where
  refused : ∀ error, refuses error → result = .error (.host attempt path error)
  faults : ∀ fault, result = .error fault → IsRefusal attempt path fault

section Answered

variable {attempt : Attempt} {path : Path} {refuses : HostError → Prop}

theorem host_is_refusal (error : HostError) : IsRefusal attempt path (.host attempt path error) :=
  .inr ⟨error, rfl⟩

theorem is_answered_of {action : Action Unit}
    (refused : ∀ error, refuses error →
      (action.run machine).1 = .error (.host attempt path error))
    (fails : FailsOnly (IsRefusal attempt path) action) :
    IsAnswered attempt path refuses (action.run machine).1 :=
  ⟨refused, fun _ stopped => fails _ _ _ (Prod.ext stopped rfl)⟩

theorem run_bind_of_error {first : Action α} {next : α → Action Unit} {fault : RunFault}
    (stopped : (first.run machine).1 = .error fault) :
    ((first >>= next).run machine).1 = .error fault := by
  rw [run_bind]
  rcases ran : first.run machine with ⟨other | answer, middle⟩
  · rw [ran] at stopped
    cases stopped
    rfl
  · rw [ran] at stopped
    cases stopped

theorem run_change_of_error {update : FileSystem → Except HostError FileSystem} {call : Call}
    {blame : HostError → RunFault} {error : HostError}
    (refusal : update machine.files = .error error) :
    ((Action.change call update blame).run machine).1 = .error (blame error) := by
  rw [run_change, refusal]

theorem Judges.write_after {guards : List Guard} {action : Action Unit} (text : Text)
    (judges : Judges guards action machine (IsAnswered attempt path refuses)) :
    Judges guards (action >>= fun _ => Action.write text) machine
      (IsAnswered attempt path refuses) := by
  unfold Judges at judges ⊢
  cases faulty : guards.findSome? (Guard.fault? machine.files) with
  | some fault =>
    rw [faulty] at judges
    obtain ⟨after, stopped, asks⟩ := judges
    refine ⟨after, ?_, asks⟩
    rw [run_bind, stopped]
  | none =>
    rw [faulty] at judges
    obtain ⟨refused, faults⟩ := judges
    constructor
    · intro error refusal
      exact run_bind_of_error (refused error refusal)
    · intro fault stopped
      rw [run_bind] at stopped
      rcases ran : action.run machine with ⟨other | answer, middle⟩
      · rw [ran] at stopped faults
        exact faults fault stopped
      · rw [ran] at stopped
        exact FailsOnly.write (.inl rfl) text _ _ _ (Prod.ext stopped rfl)

end Answered

/-! ## The file operations -/

theorem making_judges (token : Token) (event : Path → Event) (call : Path → Call)
    (update : Path → FileSystem → Except HostError FileSystem) (attempt : Attempt) :
    let path := machine.session.resolvePath token
    Judges [.absent path]
      (do
        let path ← resolvePath token
        ensureAbsent path
        Action.report (event path)
        Action.change (call path) (update path) (.host attempt path))
      machine (IsAnswered attempt path fun error => update path machine.files = .error error) := by
  refine .after_reading (run_resolve_path token machine) fun middle _ files_eq => ?_
  refine .ensure_absent fun _ => .report (.nil (is_answered_of ?_ (.change host_is_refusal)))
  rintro error refusal
  rw [← files_eq] at refusal
  exact run_change_of_error refusal

theorem storing_judges (token data : Token) (event : Path → Event) (call : Path → Call)
    (update : Path → Text → FileSystem → Except HostError FileSystem) (attempt : Attempt) :
    let path := machine.session.resolvePath token
    Judges []
      (do
        let path ← resolvePath token
        let data ← resolve data
        Action.change (call path) (update path data) (.host attempt path)
        Action.report (event path))
      machine (IsAnswered attempt path fun error =>
        update path (machine.session.resolve data) machine.files = .error error) := by
  refine .after_reading (run_resolve_path token machine) fun middle session_eq files_eq => ?_
  refine .after_reading (run_resolve data middle) fun read _ read_eq => .nil (is_answered_of ?_ ?_)
  · intro error refusal
    have here : update (machine.session.resolvePath token) (middle.session.resolve data) read.files =
        .error error := by
      rw [session_eq, read_eq, files_eq]
      exact refusal
    exact run_bind_of_error (run_change_of_error here)
  · exact .bind (.change host_is_refusal) fun _ => .report _

theorem Judges.transfer_paths {goesOn : Except RunFault Unit → Prop} {source destination : Token}
    {next : Path × Path → Action Unit}
    (judges : ∀ middle : Machine, middle.files = machine.files →
      Judges [] (next (machine.session.resolvePath source, machine.session.resolvePath destination))
        middle goesOn) :
    Judges [.present (machine.session.resolvePath source),
        .absent (machine.session.resolvePath destination)]
      (Engine.transferPaths source destination >>= next) machine goesOn := by
  simp only [Engine.transferPaths, bind_assoc, pure_bind]
  refine .after_reading (run_resolve_path source machine) fun first session_eq files_eq => ?_
  refine .after_reading (run_resolve_path destination first) fun second _ read_eq => ?_
  rw [session_eq]
  refine .ensure_present fun _ _ _ => .ensure_absent fun _ => judges _ ?_
  rw [Machine.files_record, Machine.files_record, read_eq, files_eq]

theorem remove_judges (programs : Programs) (token : Token) (machine : Machine) :
    Judges [.present (machine.session.resolvePath token)] (perform programs (.remove token)) machine
      (IsAnswered .remove (machine.session.resolvePath token)
        (Refuses machine.session machine.files · (.remove token))) := by
  rw [perform]
  refine .after_reading (run_resolve_path token machine) fun middle _ files_eq => ?_
  refine .ensure_present fun location node looked => .report (.nil (is_answered_of ?_ ?_))
  · intro error refusal
    rw [files_eq] at looked
    rw [Refuses, looked] at refusal
    rw [← files_eq] at refusal
    split_ifs with isDirectory
    · subst isDirectory
      rw [run_attempt]
      exact congrArg (Except.mapError (RunFault.host .remove _)) refusal
    · have refusal : middle.files.removeFile (machine.session.resolvePath token) = .error error := by
        cases node <;> simp_all
      exact run_change_of_error refusal
  · split
    · exact .attempt host_is_refusal
    · exact .change host_is_refusal

theorem size_lt_of_is_directory {files : FileSystem} {path : Path}
    (isDirectory : files.isDirectory path = true) : Utf8.size path < Path.sizeLimit := by
  obtain ⟨location, found⟩ := FileSystem.is_directory_eq_true_iff.mp isDirectory
  have accepted := FileSystem.refusal?_of_status found
  by_contra long
  obtain ⟨error, refused⟩ := FileSystem.exists_refusal?_of_size_limit_le (Nat.le_of_not_lt long)
  cases accepted.symm.trans refused

theorem copy_tree_refused {blame : HostError → RunFault} {source destination : Path}
    {error : HostError}
    (refusal : if machine.files.isDirectory source then
        machine.files.makeDirectory destination = .error error
      else machine.files.copyFile source destination = .error error) :
    ((copyTree blame source destination).run machine).1 = .error (blame error) := by
  rw [copyTree, run_bind, run_ask]
  dsimp only
  by_cases isDirectory : machine.files.isDirectory source = true
  · rw [if_pos isDirectory] at refusal
    rw [dif_pos ⟨isDirectory, size_lt_of_is_directory isDirectory⟩]
    exact run_bind_of_error (run_change_of_error refusal)
  · rw [if_neg isDirectory] at refusal
    rw [dif_neg fun within => isDirectory within.1]
    exact run_change_of_error refusal

theorem copy_judges (programs : Programs) (source destination : Token) (machine : Machine) :
    Judges (guards machine.session (.copy source destination))
      (perform programs (.copy source destination)) machine
      (IsAnswered .copyTo (machine.session.resolvePath destination)
        (Refuses machine.session machine.files · (.copy source destination))) := by
  rw [perform]
  refine .transfer_paths fun middle files_eq => .nil (is_answered_of ?_ ?_)
  · intro error refusal
    rw [Refuses, ← files_eq] at refusal
    exact run_bind_of_error (copy_tree_refused refusal)
  · exact .bind (copy_tree_fails_only host_is_refusal _ _) fun _ => .report _

theorem move_judges (programs : Programs) (source destination : Token) (machine : Machine) :
    Judges (guards machine.session (.move source destination))
      (perform programs (.move source destination)) machine
      (IsAnswered .moveTo (machine.session.resolvePath destination)
        (Refuses machine.session machine.files · (.move source destination))) := by
  rw [perform]
  refine .transfer_paths fun middle files_eq => .nil (is_answered_of ?_ ?_)
  · intro error refusal
    rw [Refuses, ← files_eq] at refusal
    exact run_bind_of_error (run_change_of_error refusal)
  · exact .bind (.change host_is_refusal) fun _ => .report _

theorem read_judges (programs : Programs) (source : Token) (target : Option Text)
    (machine : Machine) :
    Judges (guards machine.session (.read source target)) (perform programs (.read source target))
      machine (IsAnswered .read (machine.session.resolvePath source)
        (Refuses machine.session machine.files · (.read source target))) := by
  rw [perform]
  refine .after_reading (run_resolve_path source machine) fun middle _ files_eq => ?_
  refine .ensure_present fun location node looked => .nil (is_answered_of ?_ ?_)
  · intro error refusal
    rw [Refuses, ← files_eq] at refusal
    apply run_bind_of_error
    rw [run_demand, Machine.files_record, refusal]
    rfl
  · refine .bind (.demand host_is_refusal) fun data => .bind (.report _) fun _ => ?_
    cases target with
    | some name => exact .update_session _
    | none => exact .write (.inl rfl) _

theorem perform_judges (programs : Programs) {attempt : Attempt} {path : Path}
    (asks : attempt? machine.session operation = some (attempt, path)) :
    Judges (guards machine.session operation) (perform programs operation) machine
      (IsAnswered attempt path (Refuses machine.session machine.files · operation)) := by
  cases operation with
  | createFile token =>
    cases asks
    exact making_judges token _ _ (fun path files => files.create path) _
  | makeDirectory token =>
    cases asks
    exact making_judges token _ _ (fun path files => files.makeDirectory path) _
  | remove token =>
    cases asks
    exact remove_judges programs token machine
  | copy source destination =>
    cases asks
    exact copy_judges programs source destination machine
  | move source destination =>
    cases asks
    exact move_judges programs source destination machine
  | read source target =>
    cases asks
    exact read_judges programs source target machine
  | write token data =>
    cases asks
    exact storing_judges token data _ _ (fun path data files => files.write path (Utf8.encode data)) _
  | append token data =>
    cases asks
    exact storing_judges token data _ _ (fun path data files => files.append path (Utf8.encode data)) _
  | _ => cases asks

theorem execute_judges (programs : Programs) (instruction : Instruction) (machine : Machine)
    {attempt : Attempt} {path : Path}
    (asks : attempt? machine.session instruction.operation = some (attempt, path)) :
    Judges (guards machine.session instruction.operation) (execute programs instruction) machine
      (IsAnswered attempt path (Refuses machine.session machine.files · instruction.operation)) := by
  have same : machine.OnlyAsks (announced machine instruction) := machine.only_asks_record_events _
  rw [← same.session_eq] at asks
  have judges := perform_judges programs asks
  rw [same.session_eq, same.files_eq] at judges
  exact .of_run_eq (run_execute programs instruction machine) same (judges.write_after ['\n'])

theorem execute_fails_only (programs : Programs) (instruction : Instruction)
    (quiet : mustStand? instruction.operation = none)
    (silent : mustNotStand? instruction.operation = none) :
    FailsOnly (¬ IsJudgement ·) (execute programs instruction) :=
  .bind (.report _) fun _ => .bind (perform_fails_only quiet silent) fun _ => .write id _

theorem not_is_judgement_of_attempt? {session : Session} {attempt : Attempt} {path : Path}
    (asks : attempt? session operation = some (attempt, path)) (error : HostError) :
    ¬ IsJudgement (.host attempt path error) := by
  cases operation <;> cases asks <;> exact id

theorem judges_nothing_of_attempt? {session : Session}
    (asks : attempt? session operation = none) :
    mustStand? operation = none ∧ mustNotStand? operation = none := by
  cases operation <;> first | exact ⟨rfl, rfl⟩ | cases asks

section Stopped

variable {instruction : Instruction} {fault : RunFault}

theorem exists_run_of_first (programs : Programs)
    (first : (guards machine.session instruction.operation).findSome? (Guard.fault? machine.files) =
      some fault) :
    ∃ after, (execute programs instruction).run machine = (.error fault, after) ∧
      machine.OnlyAsks after := by
  cases asks : attempt? machine.session instruction.operation with
  | none =>
    obtain ⟨quiet, silent⟩ := judges_nothing_of_attempt? asks
    rw [guards, quiet, silent] at first
    cases first
  | some asked =>
    have judges := execute_judges programs instruction machine asks
    rwa [Judges, first] at judges

/-- A fault that tells what stands at a path is that of the first demand that is not met. -/
theorem judgement_iff (programs : Programs) (instruction : Instruction) (machine : Machine)
    (judgement : IsJudgement fault) :
    ((execute programs instruction).run machine).1 = .error fault ↔
      (guards machine.session instruction.operation).findSome? (Guard.fault? machine.files) =
        some fault := by
  constructor
  · intro stopped
    cases first : (guards machine.session instruction.operation).findSome?
        (Guard.fault? machine.files) with
    | some other =>
      obtain ⟨after, ran, -⟩ := exists_run_of_first programs first
      rw [ran] at stopped
      cases stopped
      rfl
    | none =>
      cases asks : attempt? machine.session instruction.operation with
      | none =>
        obtain ⟨quiet, silent⟩ := judges_nothing_of_attempt? asks
        have other := execute_fails_only programs instruction quiet silent _ _ _ (Prod.ext stopped rfl)
        exact absurd judgement other
      | some asked =>
        have judges := execute_judges programs instruction machine asks
        rw [Judges, first] at judges
        rcases judges.faults fault stopped with rfl | ⟨error, rfl⟩
        · exact judgement.elim
        · exact absurd judgement (not_is_judgement_of_attempt? asks error)
  · intro first
    obtain ⟨after, ran, -⟩ := exists_run_of_first programs first
    rw [ran]

end Stopped

/-! ## The first demand that is not met -/

section First

variable {session : Session} {files : FileSystem} {place : Path} {error : HostError}

theorem first_eq_some_iff {fault : RunFault} :
    (guards session operation).findSome? (Guard.fault? files) = some fault ↔
      (∃ token, mustStand? operation = some token ∧
        (Guard.present (session.resolvePath token)).fault? files = some fault) ∨
      (∃ token, mustNotStand? operation = some token ∧
        (Guard.absent (session.resolvePath token)).fault? files = some fault) ∧
      ∀ source, mustStand? operation = some source →
        ∃ entry, files.linkStatus (session.resolvePath source) = .ok entry := by
  rw [guards, List.findSome?_append, Option.or_eq_some_iff]
  cases mustStand? operation <;> cases mustNotStand? operation <;>
    simp [present_fault?_eq_none_iff, and_comm]

theorem first_not_found_iff :
    (guards session operation).findSome? (Guard.fault? files) = some (.notFound place) ↔
      ∃ token, mustStand? operation = some token ∧ place = session.resolvePath token ∧
        files.linkStatus place = .error .noSuchEntry := by
  rw [first_eq_some_iff]
  simp only [present_fault?_eq_some_iff, absent_fault?_eq_some_iff]
  grind

theorem first_already_exists_iff :
    (guards session operation).findSome? (Guard.fault? files) = some (.alreadyExists place) ↔
      ∃ token, mustNotStand? operation = some token ∧ place = session.resolvePath token ∧
        (∃ entry, files.linkStatus place = .ok entry) ∧
        ∀ source, mustStand? operation = some source →
          ∃ entry, files.linkStatus (session.resolvePath source) = .ok entry := by
  rw [first_eq_some_iff]
  simp only [present_fault?_eq_some_iff, absent_fault?_eq_some_iff]
  grind

theorem first_inspect_iff :
    (guards session operation).findSome? (Guard.fault? files) = some (.host .inspect place error) ↔
      error ≠ .noSuchEntry ∧ files.linkStatus place = .error error ∧
        ((∃ token, mustStand? operation = some token ∧ place = session.resolvePath token) ∨
          (∃ token, mustNotStand? operation = some token ∧ place = session.resolvePath token) ∧
            ∀ source, mustStand? operation = some source →
              ∃ entry, files.linkStatus (session.resolvePath source) = .ok entry) := by
  rw [first_eq_some_iff]
  simp only [present_fault?_eq_some_iff, absent_fault?_eq_some_iff]
  grind

theorem first_eq_none
    (present : ∀ source, mustStand? operation = some source →
      ∃ entry, files.linkStatus (session.resolvePath source) = .ok entry)
    (absent : ∀ destination, mustNotStand? operation = some destination →
      files.linkStatus (session.resolvePath destination) = .error .noSuchEntry) :
    (guards session operation).findSome? (Guard.fault? files) = none := by
  rw [List.findSome?_eq_none_iff, guards]
  simp only [List.mem_append, List.mem_map, Option.mem_toList]
  rintro guard (⟨source, judged, rfl⟩ | ⟨destination, judged, rfl⟩)
  · exact present_fault?_eq_none_iff.mpr (present source judged)
  · exact absent_fault?_eq_none_iff.mpr (absent destination judged)

end First

/-- Every operation finds its paths as it needs them before it changes anything: what has to stand at a
path is missed there, and what stands in the way is met there, exactly as the host answers about the
path itself. A refusal of the change comes after that and is reported with the error of the host, also
if that says that something is missing or in the way. -/
theorem paths_are_judged_before_changes (programs : Programs) (instruction : Instruction)
    (machine : Machine) :
    let operation := instruction.operation
    let path := machine.session.resolvePath
    let stands : Token → Prop := fun token =>
      ∃ entry, machine.files.linkStatus (path token) = .ok entry
    let ran := (execute programs instruction).run machine
    (∀ place, ran.1 = .error (.notFound place) ↔
      ∃ token, mustStand? operation = some token ∧ place = path token ∧
        machine.files.linkStatus place = .error .noSuchEntry) ∧
    (∀ place, ran.1 = .error (.alreadyExists place) ↔
      ∃ token, mustNotStand? operation = some token ∧ place = path token ∧
        (∃ entry, machine.files.linkStatus place = .ok entry) ∧
        ∀ source, mustStand? operation = some source → stands source) ∧
    (∀ place error, ran.1 = .error (.host .inspect place error) ↔
      error ≠ .noSuchEntry ∧ machine.files.linkStatus place = .error error ∧
        ((∃ token, mustStand? operation = some token ∧ place = path token) ∨
          (∃ token, mustNotStand? operation = some token ∧ place = path token) ∧
            ∀ source, mustStand? operation = some source → stands source)) ∧
    (∀ fault, IsJudgement fault → ran.1 = .error fault → machine.OnlyAsks ran.2) ∧
    ∀ attempt place, attempt? machine.session operation = some (attempt, place) →
      (∀ source, mustStand? operation = some source → stands source) →
      (∀ destination, mustNotStand? operation = some destination →
        machine.files.linkStatus (path destination) = .error .noSuchEntry) →
      (∀ error, Refuses machine.session machine.files error operation →
        ran.1 = .error (.host attempt place error)) ∧
      ∀ fault, ran.1 = .error fault →
        fault = .outputFull ∨ ∃ error, fault = .host attempt place error := by
  intro operation path stands ran
  refine ⟨?_, ?_, ?_, ?_, ?_⟩
  · intro place
    have judgement : IsJudgement (.notFound place) := trivial
    exact (judgement_iff programs instruction machine judgement).trans first_not_found_iff
  · intro place
    have judgement : IsJudgement (.alreadyExists place) := trivial
    exact (judgement_iff programs instruction machine judgement).trans first_already_exists_iff
  · intro place error
    have judgement : IsJudgement (.host .inspect place error) := trivial
    exact (judgement_iff programs instruction machine judgement).trans first_inspect_iff
  · intro fault judgement stopped
    have first := (judgement_iff programs instruction machine judgement).mp stopped
    obtain ⟨after, ran_eq, asks⟩ := exists_run_of_first programs first
    rw [show ran = _ from ran_eq]
    exact asks
  · intro attempt place asks present absent
    have judges := execute_judges programs instruction machine asks
    rw [Judges, first_eq_none present absent] at judges
    exact ⟨judges.refused, judges.faults⟩

/-- A directory that is missing on the way is no fault of the path itself. -/
example : ((execute (fun _ _ files => (.error .noSuchEntry, files))
      ⟨1, .createFile ⟨.word, ['d', '/', 'f']⟩, []⟩).run
        (.start (.start ['/'] none) ⟨[], []⟩ none)).1 =
    .error (.host .createFile ['/', 'd', '/', 'f'] .noSuchEntry) := by
  cbv

end Engine

end LineScript
