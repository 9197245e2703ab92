import LineScript.Proofs.Engine.Effects
import LineScript.Proofs.Engine.Outcomes
import LineScript.Proofs.Engine.Sequences

/-!
# The trace of a run

A run takes up its instructions in order, up to and including the first that fails. For each of them the
transcript has one part, which begins with the announcement of the instruction and tells of its file
operation if that succeeded; before the first part stands what is recorded while the script is read.
-/

namespace LineScript.Engine

set_option autoImplicit false

open LineScript.Action

/-! ## One instruction -/

/-- The event that announces an instruction. -/
def announcement (instruction : Instruction) : Event :=
  .executing instruction.line instruction.display

namespace Step

/-- What a step adds to the transcript. -/
def record (programs : Programs) (step : Step) : Transcript :=
  (step.after programs).transcript.drop step.machine.transcript.length

/-- What a step records begins with the announcement of its instruction, and there is no other. Of
outcomes it tells the one of its file operation if that succeeds, and none otherwise. -/
def IsTraced (programs : Programs) (step : Step) : Prop :=
  ∃ rest : Transcript, step.record programs = .event (announcement step.instruction) :: rest ∧
    (∀ event ∈ rest.events, event.isAnnouncement = false) ∧
    Concludes step.machine step.operation (rest.events.filter Event.isOutcome)

end Step

section Step

variable {programs : Programs} {machine : Machine} {operation : Operation} {events : List Event}

theorem Tells.write_after {action : Action Unit} {permitted : List Event → Prop} (text : Text)
    (tells : Tells action machine permitted) :
    Tells (action >>= fun _ => write text) machine permitted := by
  obtain ⟨marks, marked, allowed⟩ := tells
  refine ⟨marks, ?_, allowed⟩
  rw [run_bind]
  generalize action.run machine = ran at marked ⊢
  rcases ran with ⟨fault | answer, middle⟩
  · exact marked
  · have both := marked.trans (IsUnmarked.write text middle)
    rwa [List.append_nil] at both

/-- If the marks are what an operation concludes with, then they are the outcomes. -/
theorem filter_is_outcome_of_concludes
    (concludes : Concludes machine operation (events.filter Event.isMark)) :
    events.filter Event.isOutcome = events.filter Event.isMark := by
  have outcomes : ∀ event ∈ events.filter Event.isMark, event.isOutcome = true := by
    generalize events.filter Event.isMark = marks at concludes
    cases concludes with
    | success event achieved => simpa using is_outcome_of_achieves achieved
    | nothing unachieved => exact List.forall_mem_nil _
  apply List.filter_congr
  intro event mem
  cases marked : event.isMark with
  | true => exact outcomes event (List.mem_filter.mpr ⟨mem, marked⟩)
  | false =>
    rw [Event.isMark, Bool.or_eq_false_iff] at marked
    exact marked.2

/-- An instruction is announced first, and all that follows is what its operation tells. -/
theorem exists_transcript_after (programs : Programs) (step : Step) :
    ∃ rest : Transcript, (step.after programs).transcript =
        step.machine.transcript ++ .event (announcement step.instruction) :: rest ∧
      Concludes step.machine step.operation (rest.events.filter Event.isMark) := by
  obtain ⟨marks, ⟨rest, transcript_eq, rfl⟩, concludes⟩ :=
    (perform_tells programs (announced step.machine step.instruction) step.operation).write_after
      ['\n']
  refine ⟨rest, ?_, concludes_congr (step.machine.same_but_record_record_events _) concludes⟩
  have announced_eq : (announced step.machine step.instruction).transcript =
      step.machine.transcript ++ [.event (announcement step.instruction)] := rfl
  rw [Step.after, run_execute, ← Step.operation, transcript_eq, announced_eq, List.append_assoc]
  rfl

theorem transcript_after (programs : Programs) (step : Step) :
    (step.after programs).transcript = step.machine.transcript ++ step.record programs := by
  obtain ⟨rest, transcript_eq, -⟩ := exists_transcript_after programs step
  rw [Step.record, transcript_eq, List.drop_left]

theorem is_traced (programs : Programs) (step : Step) : step.IsTraced programs := by
  obtain ⟨rest, transcript_eq, concludes⟩ := exists_transcript_after programs step
  have outcomes := filter_is_outcome_of_concludes concludes
  refine ⟨rest, ?_, ?_, ?_⟩
  · rw [Step.record, transcript_eq, List.drop_left]
  · intro event mem
    cases announced : event.isAnnouncement with
    | false => rfl
    | true =>
      have mark : event ∈ rest.events.filter Event.isMark :=
        List.mem_filter.mpr ⟨mem, by rw [Event.isMark, announced, Bool.true_or]⟩
      rw [← outcomes] at mark
      rw [Event.is_announcement_of_is_outcome (List.mem_filter.mp mark).2] at announced
      cases announced
  · rw [outcomes]
    exact concludes

end Step

/-! ## Instructions in order -/

/-- The instructions that a run takes up before it ends: all of them if none fails, and otherwise those
up to and including the first that does. -/
inductive TakesUp (programs : Programs) (instructions : List Instruction) (machine : Machine) :
    List Instruction → Except RunFault Unit → Machine → Prop where
  | all (after : Machine) (ran : (executeAll programs instructions).run machine = (.ok (), after)) :
    TakesUp programs instructions machine instructions (.ok ()) after
  | upTo (earlier : List Instruction) (failing : Instruction) (later : List Instruction)
    (middle after : Machine) (fault : RunFault) (split : instructions = earlier ++ failing :: later)
    (ran : (executeAll programs earlier).run machine = (.ok (), middle))
    (failed : (execute programs failing).run middle = (.error fault, after)) :
    TakesUp programs instructions machine (earlier ++ [failing]) (.error fault) after

section Run

variable {programs : Programs} {instructions taken : List Instruction} {machine after : Machine}
  {result : Except RunFault Unit}

theorem exists_takes_up (ran : (executeAll programs instructions).run machine = (result, after)) :
    ∃ taken, TakesUp programs instructions machine taken result after := by
  induction instructions generalizing machine with
  | nil =>
    cases ran
    exact ⟨[], .all _ rfl⟩
  | cons instruction rest ih =>
    have run_eq := ran
    rw [run_execute_all_cons] at run_eq
    rcases executed : (execute programs instruction).run machine with ⟨fault | answer, middle⟩
    · rw [executed] at run_eq
      cases run_eq
      exact ⟨[instruction], .upTo [] instruction rest machine _ _ rfl rfl executed⟩
    · rw [executed] at run_eq
      obtain ⟨taken, takesUp⟩ := ih run_eq
      cases takesUp with
      | all after done => exact ⟨instruction :: rest, .all after ran⟩
      | upTo earlier failing later reached after fault split before failed =>
        have through : (executeAll programs (instruction :: earlier)).run machine =
            (.ok (), reached) := by
          rw [run_execute_all_cons, executed]
          exact before
        refine ⟨instruction :: earlier ++ [failing], .upTo _ failing later reached after fault ?_
          through failed⟩
        rw [split, List.cons_append]

theorem machine_after_append (first second : List Instruction) (machine : Machine) :
    machineAfter programs (first ++ second) machine =
      machineAfter programs second (machineAfter programs first machine) := by
  induction first generalizing machine with
  | nil => rfl
  | cons instruction rest ih => exact ih _

theorem machine_after_of_ok (ran : (executeAll programs instructions).run machine = (.ok (), after)) :
    machineAfter programs instructions machine = after := by
  obtain ⟨executed, rest, split, reached, all⟩ := exists_executed programs instructions machine
  rw [ran] at reached all
  rw [split, (all rfl).1, List.append_nil]
  exact reached.symm

theorem TakesUp.machine_after_eq (takesUp : TakesUp programs instructions machine taken result after) :
    machineAfter programs taken machine = after := by
  cases takesUp with
  | all _ ran => exact machine_after_of_ok ran
  | upTo earlier failing later middle _ fault split ran failed =>
    rw [machine_after_append, machine_after_of_ok ran]
    exact congrArg Prod.snd failed

theorem transcript_machine_after (programs : Programs) (instructions : List Instruction)
    (machine : Machine) :
    (machineAfter programs instructions machine).transcript =
      machine.transcript ++ (steps programs instructions machine).flatMap (Step.record programs) := by
  induction instructions generalizing machine with
  | nil => exact (List.append_nil _).symm
  | cons instruction rest ih =>
    rw [machineAfter, steps, ih, transcript_after, List.flatMap_cons, List.append_assoc]

theorem announcements_of_steps (programs : Programs) (instructions : List Instruction)
    (machine : Machine) :
    (Transcript.events ((steps programs instructions machine).flatMap (Step.record programs))).filter
      Event.isAnnouncement = instructions.map announcement := by
  induction instructions generalizing machine with
  | nil => rfl
  | cons instruction rest ih =>
    obtain ⟨others, record_eq, silent, -⟩ := is_traced programs ⟨machine, instruction⟩
    have none_left : (Transcript.events others).filter Event.isAnnouncement = [] := by
      rw [List.filter_eq_nil_iff]
      intro event mem
      rw [silent event mem]
      exact Bool.false_ne_true
    rw [steps, List.flatMap_cons, Transcript.events_append, List.filter_append, ih, record_eq,
      List.map_cons]
    change announcement instruction :: (Transcript.events others).filter Event.isAnnouncement ++ _ = _
    rw [none_left]
    rfl

end Run

/-! ## Reading the script -/

/-- What is recorded while a script is read. -/
def opening (script : Path) : Transcript :=
  [.event .started, .call (.linkStatus script), .call (.readText script), .event (.loaded script)]

/-- The machine on which a script has been read. -/
def opened (machine : Machine) (script : Path) : Machine :=
  { machine with transcript := machine.transcript ++ opening script }

theorem run_script_of_text_of {programs : Programs} {machine : Machine} {script : Path} {source : Text}
    (readable : machine.files.textOf script = .ok source) :
    runScript programs script machine = runSource programs source (opened machine script) := by
  obtain ⟨entry, present⟩ := FileSystem.exists_link_status_of_text_of readable
  have loaded : (do
      Action.report .started
      loadScript script).run machine = (.ok source, opened machine script) := by
    rw [run_bind, run_report]
    dsimp only
    have here : (machine.record (.event .started)).files.linkStatus script = .ok entry := present
    obtain ⟨node, presentRan⟩ := exists_run_ensure_present here
    rw [loadScript, run_bind, presentRan]
    dsimp only
    rw [run_bind, run_demand, Machine.files_record, Machine.files_record, readable]
    dsimp only [Except.mapError]
    rw [run_bind, run_report]
    dsimp only
    rw [run_pure]
    simp [opened, opening, Machine.record]
  rw [runScript, loaded]

end LineScript.Engine
