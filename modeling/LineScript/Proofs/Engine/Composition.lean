import LineScript.Engine
import LineScript.Proofs.Engine.Actions

/-!
# Actions put together from primitive ones

Every operation is put together from the primitive actions, and what all primitive actions respect is
respected by every operation. Operations that ask for no change leave the file system as it was, and
those that update nothing leave the session as it was.
-/

namespace LineScript

set_option autoImplicit false

variable {α β : Type}

/-- An action that is put together from the primitive ones. Only where `changes` holds may it ask for a
change of the file system, the start of a process included, and only where `updates` holds may it
update the session. -/
inductive Action.IsComposed (changes updates : Prop) : {α : Type} → Action α → Prop where
  | pure {α : Type} (answer : α) : IsComposed changes updates (Pure.pure answer)
  | throw {α : Type} (fault : RunFault) : IsComposed changes updates (MonadExcept.throw fault : Action α)
  | session : IsComposed changes updates Action.session
  | files : IsComposed changes updates Action.files
  | launches : IsComposed changes updates Action.launches
  | updateSession (permitted : updates) (update : Session → Session) :
    IsComposed changes updates (Action.updateSession update)
  | report (event : Event) : IsComposed changes updates (Action.report event)
  | note (call : Call) : IsComposed changes updates (modify (·.record (.call call)) : Action Unit)
  | writeBytes (bytes : List UInt8) : IsComposed changes updates (Action.writeBytes bytes)
  | ask {α : Type} (call : Call) (question : FileSystem → α) :
    IsComposed changes updates (Action.ask call question)
  | attempt {α : Type} (permitted : changes) (call : Call)
    (change : FileSystem → Except HostError α × FileSystem) (blame : HostError → RunFault) :
    IsComposed changes updates (Action.attempt call change blame)
  | bind {α β : Type} {first : Action α} {next : α → Action β}
    (composed : IsComposed changes updates first)
    (nextComposed : ∀ answer, IsComposed changes updates (next answer)) :
    IsComposed changes updates (first >>= next)

namespace Action.IsComposed

variable {changes updates : Prop}

theorem write (text : Text) : IsComposed changes updates (Action.write text) := writeBytes _

theorem for_m {entries : List α} {body : α → Action Unit}
    (composed : ∀ entry, IsComposed changes updates (body entry)) :
    IsComposed changes updates (entries.forM body) := by
  induction entries with
  | nil => exact pure ()
  | cons entry rest ih => exact bind (composed entry) fun _ => ih

theorem demand (call : Call) (question : FileSystem → Except HostError α)
    (blame : HostError → RunFault) :
    IsComposed changes updates (Action.demand (Action.ask call question) blame) := by
  apply bind (ask call question)
  intro answer
  cases answer with
  | ok answer => exact pure answer
  | error error => exact throw (blame error)

theorem change (permitted : changes) (call : Call)
    (update : FileSystem → Except HostError FileSystem) (blame : HostError → RunFault) :
    IsComposed changes updates (Action.change call update blame) := attempt permitted call _ blame

/-- A part of the machine that every primitive action keeps is kept by all that is put together from
them. -/
theorem keeps {δ : Type} {action : Action α} (composed : IsComposed changes updates action)
    (part : Machine → δ)
    (recorded : ∀ machine entry, part (machine.record entry) = part machine)
    (spent : ∀ machine room, part { machine with room := room } = part machine)
    (changed : changes → ∀ machine files, part { machine with files := files } = part machine)
    (updated : updates → ∀ machine session, part { machine with session := session } = part machine)
    (machine : Machine) : part (action.run machine).2 = part machine := by
  induction composed generalizing machine with
  | updateSession permitted update => exact updated permitted machine _
  | report event => exact recorded machine _
  | note call => exact recorded machine _
  | writeBytes bytes =>
    rw [run_write_bytes]
    cases machine.room with
    | none => exact recorded machine _
    | some room => exact (spent _ _).trans (recorded machine _)
  | ask call question => exact recorded machine _
  | attempt permitted call change blame =>
    rw [run_attempt]
    exact (changed permitted _ _).trans (recorded machine _)
  | @bind α β first next _ _ ih nextIh =>
    have kept := ih machine
    rw [run_bind]
    generalize first.run machine = ran at kept ⊢
    rcases ran with ⟨fault | answer, middle⟩
    · exact kept
    · exact (nextIh answer middle).trans kept
  | _ => rfl

section Run

variable {action : Action α} {machine after : Machine} {result : Except RunFault α}

theorem files_eq (composed : IsComposed False updates action)
    (ran : action.run machine = (result, after)) : after.files = machine.files := by
  have kept := composed.keeps (·.files) (fun _ _ => rfl) (fun _ _ => rfl) False.elim
    (fun _ _ _ => rfl) machine
  rw [ran] at kept
  exact kept

theorem session_eq (composed : IsComposed changes False action)
    (ran : action.run machine = (result, after)) : after.session = machine.session := by
  have kept := composed.keeps (·.session) (fun _ _ => rfl) (fun _ _ => rfl) (fun _ _ _ => rfl)
    False.elim machine
  rw [ran] at kept
  exact kept

end Run

end Action.IsComposed

namespace Engine

open LineScript.Action

section Parts

variable {changes updates : Prop}

theorem report_unbound_is_composed (tokens : List Token) :
    IsComposed changes updates (reportUnbound tokens) := by
  apply IsComposed.bind .session
  intro session
  apply IsComposed.for_m
  intro token
  split
  · exact .report _
  · exact .pure ()

theorem resolve_is_composed (token : Token) : IsComposed changes updates (resolve token) := by
  apply IsComposed.bind (report_unbound_is_composed [token])
  intro _
  exact .bind .session fun _ => .pure _

theorem resolve_path_is_composed (token : Token) : IsComposed changes updates (resolvePath token) := by
  apply IsComposed.bind (report_unbound_is_composed [token])
  intro _
  exact .bind .session fun _ => .pure _

theorem ensure_present_is_composed (path : Path) : IsComposed changes updates (ensurePresent path) :=
  .bind (.demand _ _ _) fun _ => .pure _

theorem ensure_absent_is_composed (path : Path) : IsComposed changes updates (ensureAbsent path) := by
  apply IsComposed.bind (.ask _ _)
  intro answer
  split
  · exact .throw _
  · exact .pure ()
  · exact .throw _

theorem resolve_command_is_composed (token : Token) :
    IsComposed changes updates (resolveCommand token) := by
  apply IsComposed.bind (resolve_is_composed token)
  intro text
  apply IsComposed.bind .session
  intro session
  split
  · exact .pure _
  · exact .throw _

theorem transfer_paths_is_composed (source destination : Token) :
    IsComposed changes updates (transferPaths source destination) := by
  apply IsComposed.bind (resolve_path_is_composed source)
  intro source
  apply IsComposed.bind (resolve_path_is_composed destination)
  intro destination
  apply IsComposed.bind (ensure_present_is_composed source)
  intro _
  exact .bind (ensure_absent_is_composed destination) fun _ => .pure _

theorem report_search_is_composed (steps : List SearchStep) :
    IsComposed changes updates (reportSearch steps) := by
  apply IsComposed.for_m
  intro step
  cases step with
  | listing directory => exact .note _
  | unlistable directory error => exact .report _
  | hit path => exact .pure ()

theorem run_command_is_composed (permitted : changes) (programs : Programs) (command : Command) :
    IsComposed changes updates (runCommand programs command) := by
  apply IsComposed.bind (.report _)
  intro _
  apply IsComposed.bind .session
  intro session
  apply IsComposed.bind .launches
  intro started
  apply IsComposed.bind (.attempt permitted _ _ _)
  intro completion
  split
  · exact .pure _
  · exact .throw _

theorem run_each_is_composed (permitted : changes) (programs : Programs) (group : Text)
    (command : Token) : IsComposed changes updates (runEach programs group command) := by
  apply IsComposed.bind .session
  intro session
  split
  · exact .report _
  · apply IsComposed.bind (resolve_command_is_composed command)
    intro template
    apply IsComposed.for_m
    intro entry
    apply IsComposed.bind (.report _)
    intro _
    exact .bind (run_command_is_composed permitted programs _) fun _ => .write _

theorem copy_tree_is_composed (permitted : changes) (blame : HostError → RunFault)
    (source destination : Path) : IsComposed changes updates (copyTree blame source destination) := by
  induction source, destination using copyTree.induct with
  | case1 source destination ih =>
    rw [copyTree]
    apply IsComposed.bind (.ask _ _)
    intro descends
    split
    · rename_i within
      apply IsComposed.bind (.change permitted _ _ _)
      intro _
      apply IsComposed.bind (.demand _ _ _)
      intro entries
      exact .for_m fun entry => ih descends within entry.1
    · exact .change permitted _ _ _

end Parts

/-- Whether an operation may ask for a change of the file system. -/
def mayChange : Operation → Bool
  | .echo _ | .set _ _ | .changeDirectory _ | .read _ _ | .find _ _ => false
  | _ => true

/-- A part of the session that an operation can be about. -/
inductive Subject where
  | variable (name : Text)
  | group (name : Text)
  | directory

/-- The part of the session that an operation sets when it succeeds. -/
def subject? : Operation → Option Subject
  | .set name _ | .execute _ (some name) | .read _ (some name) => some (.variable name)
  | .find _ group => some (.group group)
  | .changeDirectory _ => some .directory
  | _ => none

theorem perform_is_composed (programs : Programs) (operation : Operation) :
    IsComposed (mayChange operation = true) ((subject? operation).isSome = true)
      (perform programs operation) := by
  cases operation with
  | echo arguments =>
    rw [perform]
    apply IsComposed.bind (report_unbound_is_composed arguments)
    intro _
    exact .bind .session fun _ => .write _
  | execute command capture =>
    rw [perform]
    apply IsComposed.bind (resolve_command_is_composed command)
    intro command
    apply IsComposed.bind (run_command_is_composed rfl programs command)
    intro output
    cases capture with
    | some name => exact .updateSession rfl _
    | none => exact .write output
  | set name value =>
    rw [perform]
    exact .updateSession rfl _
  | createFile path | makeDirectory path =>
    apply IsComposed.bind (resolve_path_is_composed path)
    intro path
    apply IsComposed.bind (ensure_absent_is_composed path)
    intro _
    exact .bind (.report _) fun _ => .change rfl _ _ _
  | changeDirectory path =>
    rw [perform]
    apply IsComposed.bind (resolve_path_is_composed path)
    intro path
    apply IsComposed.bind (.demand _ _ _)
    intro target
    apply IsComposed.bind (.ask _ _)
    intro isDirectory
    split
    · exact .bind (.report _) fun _ => .updateSession rfl _
    · exact .throw _
  | remove path =>
    rw [perform]
    apply IsComposed.bind (resolve_path_is_composed path)
    intro path
    apply IsComposed.bind (ensure_present_is_composed path)
    intro node
    apply IsComposed.bind (.report _)
    intro _
    split
    · exact .attempt rfl _ _ _
    · exact .change rfl _ _ _
  | copy source destination =>
    rw [perform]
    apply IsComposed.bind (transfer_paths_is_composed source destination)
    intro paths
    exact .bind (copy_tree_is_composed rfl _ _ _) fun _ => .report _
  | move source destination =>
    rw [perform]
    apply IsComposed.bind (transfer_paths_is_composed source destination)
    intro paths
    exact .bind (.change rfl _ _ _) fun _ => .report _
  | read source target =>
    rw [perform]
    apply IsComposed.bind (resolve_path_is_composed source)
    intro path
    apply IsComposed.bind (ensure_present_is_composed path)
    intro _
    apply IsComposed.bind (.demand _ _ _)
    intro data
    apply IsComposed.bind (.report _)
    intro _
    cases target with
    | some name => exact .updateSession rfl _
    | none => exact .write _
  | write path data | append path data =>
    apply IsComposed.bind (resolve_path_is_composed path)
    intro path
    apply IsComposed.bind (resolve_is_composed data)
    intro data
    exact .bind (.change rfl _ _ _) fun _ => .report _
  | find pattern group =>
    rw [perform]
    apply IsComposed.bind (resolve_is_composed pattern)
    intro pattern
    split
    · exact .throw _
    · apply IsComposed.bind .files
      intro files
      apply IsComposed.bind .session
      intro session
      apply IsComposed.bind (report_search_is_composed _)
      intro _
      exact .bind (.report _) fun _ => .updateSession rfl _
  | each group command => exact run_each_is_composed rfl programs group command

section Perform

variable {programs : Programs} {operation : Operation} {machine after : Machine}
  {result : Except RunFault Unit}

theorem files_eq_of_perform (harmless : mayChange operation = false)
    (ran : (perform programs operation).run machine = (result, after)) :
    after.files = machine.files := by
  have composed := perform_is_composed programs operation
  simp only [harmless, Bool.false_eq_true] at composed
  exact composed.files_eq ran

theorem execute_is_composed (programs : Programs) (instruction : Instruction) :
    IsComposed (mayChange instruction.operation = true)
      ((subject? instruction.operation).isSome = true) (execute programs instruction) :=
  .bind (.report _) fun _ => .bind (perform_is_composed programs _) fun _ => .write _

theorem files_eq_of_execute {instruction : Instruction}
    (harmless : mayChange instruction.operation = false)
    (ran : (execute programs instruction).run machine = (result, after)) :
    after.files = machine.files := by
  have composed := execute_is_composed programs instruction
  simp only [harmless, Bool.false_eq_true] at composed
  exact composed.files_eq ran

/-- An operation that is about no part of the session leaves it alone, whether it succeeds or not. -/
theorem session_eq_of_perform (silent : subject? operation = none)
    (ran : (perform programs operation).run machine = (result, after)) :
    after.session = machine.session := by
  have composed := perform_is_composed programs operation
  simp only [silent, Option.isSome_none, Bool.false_eq_true] at composed
  exact composed.session_eq ran

end Perform

end Engine

end LineScript
