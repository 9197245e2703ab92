import Mathlib
import LineScript.Proofs.Engine.FileChanges
import LineScript.Proofs.Engine.History

/-!
# Nothing is lost

Only `rm`, `write`, `append` and the commands of `exec` and `each` may take away what stands in the file
system. However a run of the other operations ends, all that stood before it still stands where the
moves of the run took it.
-/

namespace LineScript

set_option autoImplicit false

namespace FileSystem

/-- Where the entry that a path ends in lies, if the path ends in one. -/
def entryAt? (files : FileSystem) (path : Path) : Option Location :=
  match files.locateParent path with
  | .ok (directory, .entry name _) => some (directory ++ [name])
  | _ => none

/-- All that stood in one well-formed file system stands in another where `place` takes it. -/
structure Keeps (before : FileSystem) (place : Location → Location) (after : FileSystem) :
    Prop where
  formed : after.IsWellFormed
  get?_eq : ∀ location node, before.get? location = some node →
    after.get? (place location) = some node

namespace Keeps

variable {before middle after : FileSystem}

theorem of_eq (formed : before.IsWellFormed) (same : after = before) : before.Keeps id after := by
  subst same
  exact ⟨formed, fun _ _ standing => standing⟩

theorem trans {first second : Location → Location} (earlier : before.Keeps first middle)
    (later : middle.Keeps second after) : before.Keeps (fun location => second (first location)) after where
  formed := later.formed
  get?_eq _ _ standing := later.get?_eq _ _ (earlier.get?_eq _ _ standing)

end Keeps

end FileSystem

namespace Engine

open LineScript.Action LineScript.FileSystem

/-- The operations that start no process, remove nothing and write into no file that is there. -/
def isCautious : Operation → Bool
  | .execute _ _ | .remove _ | .write _ _ | .append _ _ | .each _ _ => false
  | _ => true

/-- Where an operation that is carried out takes what stands at a location. Only moves take anything
anywhere. -/
def carried (machine : Machine) (operation : Operation) (location : Location) : Location :=
  match operation with
  | .move source destination =>
    match machine.files.entryAt? (machine.session.resolvePath source),
      machine.files.entryAt? (machine.session.resolvePath destination) with
    | some old, some new => Location.moved old new location
    | _, _ => location
  | _ => location

/-- Where some steps, one after the other, take what stands at a location. -/
def placeAfter (steps : List Step) (location : Location) : Location :=
  steps.foldl (fun place step => carried step.machine step.operation place) location

/-- The steps of a run that succeed, and with them the one that the output stops. A move that the output
stops has been made: it writes nothing but the blank line after it. -/
def carriedOut (programs : Programs) : List Instruction → Machine → List Step
  | [], _ => []
  | instruction :: later, machine =>
    match (execute programs instruction).run machine with
    | (.ok _, after) => ⟨machine, instruction⟩ :: carriedOut programs later after
    | (.error .outputFull, _) => [⟨machine, instruction⟩]
    | (.error _, _) => []

section Operations

variable {programs : Programs} {machine after : Machine} {result : Except RunFault Unit}

theorem keeps_of_perform {operation : Operation} (cautious : isCautious operation = true)
    (still : ∀ source destination, operation ≠ .move source destination)
    (formed : machine.files.IsWellFormed)
    (ran : (perform programs operation).run machine = (result, after)) :
    machine.files.Keeps id after.files := by
  cases making : newPath? machine.session operation with
  | some path =>
    have within := changes_within_of_perform making formed ran
    have kept := within.is_kept_by fun location new => new.get?_eq_none formed
    exact ⟨within.formed, kept.get?_eq⟩
  | none =>
    have harmless : mayChange operation = false := by
      cases operation with
      | move source destination => exact absurd rfl (still source destination)
      | createFile | makeDirectory | copy => cases making
      | execute | remove | write | append | each => cases cautious
      | _ => rfl
    exact .of_eq formed (files_eq_of_perform harmless ran)

theorem keeps_of_move {source destination : Token} (formed : machine.files.IsWellFormed)
    (ran : (perform programs (.move source destination)).run machine = (.ok (), after)) :
    machine.files.Keeps (carried machine (.move source destination)) after.files := by
  rcases relocates_of_move formed ran with ⟨_, impossible, -⟩ | ⟨-, relocates⟩
  · cases impossible
  · generalize after.files = files at relocates ⊢
    cases relocates with
    | intro oldDirectory oldName oldSlash newDirectory newName newSlash oldParent newParent can =>
      have carried_eq : carried machine (.move source destination) =
          Location.moved (oldDirectory ++ [oldName]) (newDirectory ++ [newName]) := by
        funext location
        rw [carried, entryAt?, oldParent, entryAt?, newParent]
      rw [carried_eq]
      exact ⟨can.is_well_formed_relocate, fun _ _ => can.get?_moved⟩

/-- What an operation does to the file system is done before the blank line after it is written. -/
theorem files_of_execute {instruction : Instruction}
    (ran : (execute programs instruction).run machine = (result, after)) :
    ∃ outcome middle, (perform programs instruction.operation).run
        (machine.record (.event (.executing instruction.line instruction.display))) =
          (outcome, middle) ∧ after.files = middle.files ∧
      (result = outcome ∨ outcome = .ok () ∧ result = .error .outputFull) := by
  rw [execute, run_bind, run_report] at ran
  dsimp only at ran
  rw [run_bind] at ran
  rcases performed : (perform programs instruction.operation).run
    (machine.record (.event (.executing instruction.line instruction.display))) with
    ⟨fault | answer, middle⟩
  · rw [performed] at ran
    cases ran
    exact ⟨_, _, rfl, rfl, .inl rfl⟩
  · rw [performed] at ran
    have files_eq := (@IsComposed.write False False _).files_eq ran
    refine ⟨_, _, rfl, files_eq, ?_⟩
    cases result with
    | error fault => exact .inr ⟨rfl, congrArg _ (output_full_of_write ran)⟩
    | ok answer => exact .inl rfl

theorem changes_within_of_execute {instruction : Instruction} {path : Path}
    (making : newPath? machine.session instruction.operation = some path)
    (formed : machine.files.IsWellFormed)
    (ran : (execute programs instruction).run machine = (result, after)) :
    ChangesWithin (machine.files.IsNewAt path) machine.files after.files := by
  obtain ⟨outcome, middle, performed, files_eq, -⟩ := files_of_execute ran
  rw [files_eq]
  exact @changes_within_of_perform programs (machine.record _) middle outcome _ path making formed
    performed

theorem carried_of_still {operation : Operation}
    (still : ∀ source destination, operation ≠ .move source destination) (machine : Machine) :
    carried machine operation = id := by
  funext location
  unfold carried
  split
  · exact absurd rfl (still _ _)
  · rfl

/-- A move that stops for whatever reason but its output has not been made, and otherwise it has. -/
theorem keeps_of_execute_move {instruction : Instruction} {source destination : Token}
    (move : instruction.operation = .move source destination) (formed : machine.files.IsWellFormed)
    (ran : (execute programs instruction).run machine = (result, after)) :
    (∃ fault, result = .error fault ∧ fault ≠ .outputFull) ∧ machine.files.Keeps id after.files ∨
      (result = .ok () ∨ result = .error .outputFull) ∧
        machine.files.Keeps (carried machine (.move source destination)) after.files := by
  obtain ⟨outcome, middle, performed, files_eq, result_eq⟩ := files_of_execute ran
  have reported : (machine.record (.event
    (.executing instruction.line instruction.display))).files.IsWellFormed := formed
  rw [move] at performed
  rw [files_eq]
  rcases relocates_of_move reported performed with ⟨fault, rfl, other, same⟩ | ⟨rfl, -⟩
  · left
    rcases result_eq with rfl | ⟨impossible, -⟩
    · exact ⟨⟨fault, rfl, other⟩, .of_eq formed same⟩
    · cases impossible
  · right
    have kept := keeps_of_move reported performed
    rcases result_eq with rfl | ⟨-, full⟩
    · exact ⟨.inl rfl, kept⟩
    · exact ⟨.inr full, kept⟩

/-- One instruction loses nothing. It takes what it moves to its new place if it succeeds or if the
output stops it, and nothing anywhere otherwise. -/
theorem keeps_of_execute {instruction : Instruction}
    (cautious : isCautious instruction.operation = true) (formed : machine.files.IsWellFormed)
    (ran : (execute programs instruction).run machine = (result, after)) :
    (result = .ok () ∨ result = .error .outputFull →
      machine.files.Keeps (carried machine instruction.operation) after.files) ∧
    ∀ fault, result = .error fault → fault ≠ .outputFull → machine.files.Keeps id after.files := by
  by_cases moves : ∃ source destination, instruction.operation = .move source destination
  · obtain ⟨source, destination, move⟩ := moves
    rw [move]
    rcases keeps_of_execute_move move formed ran with ⟨⟨fault, rfl, other⟩, kept⟩ | ⟨done, kept⟩
    · constructor
      · rintro (impossible | full)
        · cases impossible
        · cases full
          exact absurd rfl other
      · intro _ _ _
        exact kept
    · constructor
      · intro _
        exact kept
      · rintro fault rfl other
        rcases done with impossible | full
        · cases impossible
        · cases full
          exact absurd rfl other
  · have still : ∀ source destination, instruction.operation ≠ .move source destination :=
      fun source destination move => moves ⟨source, destination, move⟩
    obtain ⟨outcome, middle, performed, files_eq, -⟩ := files_of_execute ran
    have reported : (machine.record (.event
      (.executing instruction.line instruction.display))).files.IsWellFormed := formed
    have kept := keeps_of_perform cautious still reported performed
    rw [carried_of_still still, files_eq]
    exact ⟨fun _ => kept, fun _ _ _ => kept⟩

end Operations

/-! ## Runs -/

section Runs

variable {programs : Programs} {instructions : List Instruction} {machine after : Machine}
  {result : Except RunFault Unit}

/-- Unless the output stops a run, the steps that it carries out are those that succeed. -/
theorem carried_out_eq_succeeded (ran : (executeAll programs instructions).run machine = (result, after))
    (other : result ≠ .error .outputFull) :
    carriedOut programs instructions machine = succeeded programs instructions machine := by
  induction instructions generalizing machine with
  | nil => rfl
  | cons instruction later ih =>
    rw [run_execute_all_cons] at ran
    rw [carriedOut, succeeded]
    rcases executed : (execute programs instruction).run machine with ⟨fault | answer, middle⟩
    · rw [executed] at ran
      cases ran
      cases fault with
      | outputFull => exact absurd rfl other
      | _ => rfl
    · rw [executed] at ran
      exact congrArg _ (ih ran)

theorem keeps_of_execute_all
    (cautious : ∀ instruction ∈ instructions, isCautious instruction.operation = true)
    (formed : machine.files.IsWellFormed)
    (ran : (executeAll programs instructions).run machine = (result, after)) :
    machine.files.Keeps (placeAfter (carriedOut programs instructions machine)) after.files := by
  induction instructions generalizing machine with
  | nil =>
    cases ran
    exact .of_eq formed rfl
  | cons instruction later ih =>
    rw [List.forall_mem_cons] at cautious
    rw [run_execute_all_cons] at ran
    rw [carriedOut]
    rcases executed : (execute programs instruction).run machine with ⟨fault | answer, middle⟩
    · obtain ⟨done, undone⟩ := keeps_of_execute cautious.1 formed executed
      rw [executed] at ran
      cases ran
      cases fault with
      | outputFull => exact done (.inr rfl)
      | _ => exact undone _ rfl nofun
    · have done := (keeps_of_execute cautious.1 formed executed).1 (.inl rfl)
      rw [executed] at ran
      exact done.trans (ih cautious.2 done.formed ran)

end Runs

/-- However a run of operations that must not overwrite ends, every file that was there is still there
with its content, where the moves of the run took it. These are the moves that succeed and the one,
if the output stops the run there, whose blank line it refuses. What makes an entry changes nothing
that was there and adds nothing but what is at or below the free name that its path ends in. -/
theorem cautious_runs_lose_nothing (programs : Programs) :
    (∀ instructions machine after result,
      (∀ instruction ∈ instructions, isCautious instruction.operation = true) →
      machine.files.IsWellFormed →
      (executeAll programs instructions).run machine = (result, after) →
      (∀ location content mode, machine.files.get? location = some (.file content mode) →
        after.files.get? (placeAfter (carriedOut programs instructions machine) location) =
          some (.file content mode)) ∧
      (result ≠ .error .outputFull →
        carriedOut programs instructions machine = succeeded programs instructions machine) ∧
      after.files.IsWellFormed) ∧
    ∀ instruction machine after result path,
      newPath? machine.session instruction.operation = some path →
      machine.files.IsWellFormed →
      (execute programs instruction).run machine = (result, after) →
      (∀ location node, machine.files.get? location = some node →
        after.files.get? location = some node) ∧
      ∀ location, after.files.get? location ≠ machine.files.get? location →
        machine.files.IsNewAt path location := by
  constructor
  · intro instructions machine after result cautious formed ran
    have kept := keeps_of_execute_all cautious formed ran
    exact ⟨fun location content mode => kept.get?_eq location _, carried_out_eq_succeeded ran,
      kept.formed⟩
  · intro instruction machine after result path making formed ran
    have within := changes_within_of_execute making formed ran
    have kept := within.is_kept_by fun location new => new.get?_eq_none formed
    exact ⟨kept.get?_eq, within.region_of_ne⟩

/-- A directory is copied and moved before an instruction stops the run. The file in it stands where the
move took it, and the copy alone has left it where it was. -/
theorem cautious_runs_lose_nothing_before_stop :
    let a : Name := ⟨['a'], by decide⟩
    let c : Name := ⟨['c'], by decide⟩
    let x : Name := ⟨['x'], by decide⟩
    let files : FileSystem := .ofList [([a], .directory), ([a, x], .file [120] .created)]
    let machine := Machine.start (.start ['/'] none) files none
    let copying : Instruction := ⟨1, .copy ⟨.word, ['a']⟩ ⟨.word, ['b']⟩, []⟩
    let instructions : List Instruction :=
      [copying, ⟨2, .move ⟨.word, ['a']⟩ ⟨.word, ['c']⟩, []⟩, ⟨3, .createFile ⟨.word, ['c']⟩, []⟩]
    let after := ((executeAll onceSuccessful instructions).run machine).2
    (executeAll onceSuccessful instructions).run machine =
        (.error (.alreadyExists ['/', 'c']), after) ∧
      placeAfter (succeeded onceSuccessful instructions machine) [a, x] = [c, x] ∧
      after.files.get? [c, x] = some (.file [120] .created) ∧
      ((execute onceSuccessful copying).run machine).2.files.get? [a, x] =
        some (.file [120] .created) := by
  intro a c x files machine copying instructions after
  have formed : files.IsWellFormed := is_well_formed_of_list (by decide) (by decide)
  have standing : files.get? [a, x] = some (.file [120] .created) := by decide
  have stopped : ((executeAll onceSuccessful instructions).run machine).1 =
      .error (.alreadyExists ['/', 'c']) := by
    cbv
  have ran : (executeAll onceSuccessful instructions).run machine =
      (.error (.alreadyExists ['/', 'c']), after) := Prod.ext stopped rfl
  have place_eq : placeAfter (succeeded onceSuccessful instructions machine) [a, x] = [c, x] := by
    cbv
  obtain ⟨runs, steps⟩ := cautious_runs_lose_nothing onceSuccessful
  obtain ⟨kept, moves_eq, -⟩ := runs instructions machine after _ (by decide) formed ran
  have copied := Prod.eta ((execute onceSuccessful copying).run machine)
  obtain ⟨still, -⟩ := steps copying machine _ _ ['/', 'b'] rfl formed copied.symm
  have other : (.error (.alreadyExists ['/', 'c']) : Except RunFault Unit) ≠ .error .outputFull := by
    intro same
    cases same
  have kept := kept [a, x] [120] .created standing
  rw [moves_eq other, place_eq] at kept
  exact ⟨ran, place_eq, kept, still [a, x] _ standing⟩

/-- The moves that succeed do not tell the whole story: the output can refuse the blank line after a
move, which then fails though it has been made. -/
theorem refused_blank_line_hides_move :
    ¬ ∀ (programs : Programs) (instructions : List Instruction) (machine after : Machine)
      (result : Except RunFault Unit),
      (∀ instruction ∈ instructions, isCautious instruction.operation = true) →
      machine.files.IsWellFormed →
      (executeAll programs instructions).run machine = (result, after) →
      ∀ location content mode, machine.files.get? location = some (.file content mode) →
        ∃ place kept,
          (place = location ∨ place = placeAfter (succeeded programs instructions machine) location) ∧
          after.files.get? place = some (.file content kept) := by
  intro lossless
  let a : Name := ⟨['a'], by decide⟩
  let files : FileSystem := .ofList [([a], .file [120] .created)]
  let machine := Machine.start (.start ['/'] none) files (some 0)
  let instructions : List Instruction := [⟨1, .move ⟨.word, ['a']⟩ ⟨.word, ['b']⟩, []⟩]
  have formed : files.IsWellFormed := is_well_formed_of_list (by decide) (by decide)
  have unmoved : placeAfter (succeeded onceSuccessful instructions machine) [a] = [a] := by cbv
  have gone : ((executeAll onceSuccessful instructions).run machine).2.files.get? [a] = none := by
    cbv
  have ran := Prod.eta ((executeAll onceSuccessful instructions).run machine)
  obtain ⟨place, kept, either, standing⟩ :=
    lossless onceSuccessful instructions machine _ _ (by decide) formed ran.symm [a] [120] .created
      (by decide)
  have here : place = [a] := by
    rcases either with here | here
    · exact here
    · rw [here, unmoved]
  rw [here, gone] at standing
  cases standing

end Engine

end LineScript
