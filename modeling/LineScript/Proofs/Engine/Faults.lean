import LineScript.Proofs.Engine.Commands
import LineScript.Proofs.Engine.Operations

/-!
# The faults that an action can stop with

An action put together from primitive ones stops with the faults of its parts. Operations that judge no
path have no fault that tells what stands at one.
-/

namespace LineScript

set_option autoImplicit false

variable {α β : Type}

/-- No other faults stop the action. -/
def Action.FailsOnly (permitted : RunFault → Prop) (action : Action α) : Prop :=
  ∀ machine fault after, action.run machine = (.error fault, after) → permitted fault

namespace Action.FailsOnly

variable {permitted : RunFault → Prop}

theorem of_succeeds {action : Action α}
    (succeeds : ∀ machine, ∃ answer after, action.run machine = (.ok answer, after)) :
    FailsOnly permitted action := by
  intro machine fault after stopped
  obtain ⟨answer, middle, ran⟩ := succeeds machine
  cases ran.symm.trans stopped

theorem throw {fault : RunFault} (allowed : permitted fault) :
    FailsOnly permitted (MonadExcept.throw fault : Action α) := by
  intro machine other after stopped
  cases stopped
  exact allowed

theorem bind {first : Action α} {next : α → Action β} (fails : FailsOnly permitted first)
    (nextFails : ∀ answer, FailsOnly permitted (next answer)) :
    FailsOnly permitted (first >>= next) := by
  intro machine fault after stopped
  rw [run_bind] at stopped
  rcases ran : first.run machine with ⟨other | answer, middle⟩
  · rw [ran] at stopped
    cases stopped
    exact fails _ _ _ ran
  · rw [ran] at stopped
    exact nextFails answer _ _ _ stopped

theorem for_m {entries : List α} {body : α → Action Unit}
    (fails : ∀ entry, FailsOnly permitted (body entry)) :
    FailsOnly permitted (entries.forM body) := by
  induction entries with
  | nil => exact of_succeeds fun _ => ⟨_, _, rfl⟩
  | cons entry rest ih => exact bind (fails entry) fun _ => ih

theorem attempt {call : Call} {change : FileSystem → Except HostError α × FileSystem}
    {blame : HostError → RunFault} (blamed : ∀ error, permitted (blame error)) :
    FailsOnly permitted (Action.attempt call change blame) := by
  intro machine fault after stopped
  rw [run_attempt] at stopped
  rcases answered : (change machine.files).1 with error | answer
  · rw [answered] at stopped
    cases stopped
    exact blamed error
  · rw [answered] at stopped
    cases stopped

theorem change {call : Call} {update : FileSystem → Except HostError FileSystem}
    {blame : HostError → RunFault} (blamed : ∀ error, permitted (blame error)) :
    FailsOnly permitted (Action.change call update blame) := attempt blamed

theorem demand {call : Call} {question : FileSystem → Except HostError α}
    {blame : HostError → RunFault} (blamed : ∀ error, permitted (blame error)) :
    FailsOnly permitted (Action.demand (Action.ask call question) blame) := by
  intro machine fault after stopped
  rw [run_demand] at stopped
  rcases answered : question machine.files with error | answer
  · rw [answered] at stopped
    cases stopped
    exact blamed error
  · rw [answered] at stopped
    cases stopped

theorem report (event : Event) : FailsOnly permitted (Action.report event) :=
  of_succeeds fun _ => ⟨_, _, rfl⟩

theorem ask (call : Call) (question : FileSystem → α) :
    FailsOnly permitted (Action.ask call question) := of_succeeds fun _ => ⟨_, _, rfl⟩

theorem session : FailsOnly permitted Action.session := of_succeeds fun _ => ⟨_, _, rfl⟩

theorem files : FailsOnly permitted Action.files := of_succeeds fun _ => ⟨_, _, rfl⟩

theorem update_session (update : Session → Session) :
    FailsOnly permitted (Action.updateSession update) := of_succeeds fun _ => ⟨_, _, rfl⟩

theorem launches : FailsOnly permitted Action.launches := of_succeeds fun _ => ⟨_, _, rfl⟩

theorem pure (answer : α) : FailsOnly permitted (Pure.pure answer : Action α) :=
  of_succeeds fun _ => ⟨_, _, rfl⟩

theorem write (full : permitted .outputFull) (text : Text) :
    FailsOnly permitted (Action.write text) := by
  intro machine fault after stopped
  rw [output_full_of_write stopped]
  exact full

end Action.FailsOnly


namespace Engine

open LineScript.Action

variable {programs : Programs} {operation : Operation}

theorem report_unbound_fails_only (permitted : RunFault → Prop) (tokens : List Token) :
    FailsOnly permitted (reportUnbound tokens) :=
  .of_succeeds fun machine => ⟨_, _, run_report_unbound tokens machine⟩

theorem resolve_fails_only (permitted : RunFault → Prop) (token : Token) :
    FailsOnly permitted (resolve token) :=
  .of_succeeds fun machine => ⟨_, _, run_resolve token machine⟩

theorem resolve_path_fails_only (permitted : RunFault → Prop) (token : Token) :
    FailsOnly permitted (resolvePath token) :=
  .of_succeeds fun machine => ⟨_, _, run_resolve_path token machine⟩

theorem copy_tree_fails_only {permitted : RunFault → Prop} {blame : HostError → RunFault}
    (blamed : ∀ error, permitted (blame error)) (source destination : Path) :
    FailsOnly permitted (copyTree blame source destination) := by
  induction source, destination using copyTree.induct with
  | case1 source destination ih =>
    rw [copyTree]
    refine .bind (.ask _ _) fun descends => ?_
    split
    · rename_i within
      refine .bind (.change blamed) fun _ => ?_
      refine .bind (.demand blamed) fun entries => ?_
      exact .for_m fun entry => ih descends within entry.1
    · exact .change blamed

/-- The token whose path something has to stand at before an operation goes ahead. -/
def mustStand? : Operation → Option Token
  | .remove path | .read path _ => some path
  | .copy source _ | .move source _ => some source
  | _ => none

/-- The token whose path nothing may stand at before an operation goes ahead. -/
def mustNotStand? : Operation → Option Token
  | .createFile path | .makeDirectory path => some path
  | .copy _ destination | .move _ destination => some destination
  | _ => none

/-- The faults that tell what stands at a path. -/
def IsJudgement : RunFault → Prop
  | .notFound _ | .alreadyExists _ | .host .inspect _ _ => True
  | _ => False

theorem run_command_fails_only (command : Command) :
    FailsOnly (¬ IsJudgement ·) (runCommand programs command) := by
  refine .bind (.report _) fun _ => ?_
  refine .bind .session fun session => ?_
  refine .bind .launches fun started => ?_
  refine .bind (.attempt fun error => id) fun completion => ?_
  split
  · exact .pure _
  · exact .throw id

theorem resolve_command_fails_only (token : Token) :
    FailsOnly (¬ IsJudgement ·) (resolveCommand token) := by
  refine .bind (resolve_fails_only _ token) fun text => ?_
  refine .bind .session fun session => ?_
  split
  · exact .pure _
  · exact .throw id

/-- An operation that judges no path has no fault that tells what stands at one. -/
theorem perform_fails_only (quiet : mustStand? operation = none)
    (silent : mustNotStand? operation = none) :
    FailsOnly (¬ IsJudgement ·) (perform programs operation) := by
  cases operation with
  | createFile | makeDirectory => cases silent
  | remove | read | copy | move => cases quiet
  | echo arguments =>
    rw [perform]
    refine .bind (report_unbound_fails_only _ arguments) fun _ => ?_
    exact .bind .session fun _ => .write id _
  | execute command capture =>
    rw [perform]
    refine .bind (resolve_command_fails_only command) fun command => ?_
    refine .bind (run_command_fails_only command) fun output => ?_
    cases capture with
    | some name => exact .update_session _
    | none => exact .write id _
  | set name value =>
    rw [perform]
    exact .update_session _
  | changeDirectory path =>
    rw [perform]
    refine .bind (resolve_path_fails_only _ path) fun path => ?_
    refine .bind (.demand fun error => id) fun target => ?_
    refine .bind (.ask _ _) fun isDirectory => ?_
    split
    · exact .bind (.report _) fun _ => .update_session _
    · exact .throw id
  | write path data | append path data =>
    rw [perform]
    refine .bind (resolve_path_fails_only _ path) fun path => ?_
    refine .bind (resolve_fails_only _ data) fun data => ?_
    exact .bind (.change fun error => id) fun _ => .report _
  | find pattern group =>
    rw [perform]
    refine .bind (resolve_fails_only _ pattern) fun pattern => ?_
    split
    · exact .throw id
    · refine .bind .files fun files => ?_
      refine .bind .session fun session => ?_
      refine .bind (.for_m fun step => ?_) fun _ => .bind (.report _) fun _ => .update_session _
      cases step with
      | listing directory => exact .of_succeeds fun _ => ⟨_, _, rfl⟩
      | unlistable directory error => exact .report _
      | hit path => exact .pure ()
  | each group command =>
    rw [perform, runEach]
    refine .bind .session fun session => ?_
    split
    · exact .report _
    · refine .bind (resolve_command_fails_only command) fun template => ?_
      refine .for_m fun entry => ?_
      refine .bind (.report _) fun _ => ?_
      exact .bind (run_command_fails_only _) fun output => .write id _

end Engine

end LineScript
