import LineScript.Application
import LineScript.Proofs.Engine.Runs
import LineScript.Proofs.Engine.Trace

/-!
# Runs with and without the trace

The flag `-v` decides what is printed and nothing else: a run with it has the exit code, the error stream
and the files of the run without it, and its output without the lines of the events is the output of
that run.
-/

namespace LineScript

set_option autoImplicit false

namespace Entry

/-- Whether an entry is an event of the trace. -/
def isEvent : Entry → Bool
  | .event _ => true
  | _ => false

/-- What an entry shows on an output with the trace. -/
def shown : Entry → List UInt8
  | .event told => Utf8.encode told.line
  | .output bytes => bytes
  | .call _ => []

end Entry

theorem Transcript.verbose_eq (transcript : Transcript) :
    transcript.verbose = transcript.flatMap Entry.shown := by
  rw [Transcript.verbose]
  congr 1
  funext entry
  cases entry <;> rfl

theorem Transcript.output_eq (transcript : Transcript) :
    transcript.output = (transcript.filter (!·.isEvent)).flatMap Entry.shown := by
  induction transcript with
  | nil => rfl
  | cons entry rest ih =>
    rw [Transcript.output, List.flatMap_cons, ← Transcript.output, ih]
    cases entry <;> rfl

/-! ## Lines of the trace -/

theorem steers_terminal_of_mem_traced {c d : Char} (mem : d ∈ traced c) : steersTerminal d = false := by
  cases steers : steersTerminal c with
  | false =>
    rw [traced_of_not_steers_terminal steers, List.mem_singleton] at mem
    rw [mem, steers]
  | true =>
    have low : c.toNat < 160 := by
      simp only [steersTerminal, Bool.or_eq_true, Bool.and_eq_true, beq_iff_eq, decide_eq_true_eq]
        at steers
      omega
    have escapes : ((List.range 160).all fun code =>
        (traced (Char.ofNat code)).all (!steersTerminal ·)) = true := by
      decide +kernel
    have escaped := List.all_eq_true.mp escapes c.toNat (List.mem_range.mpr low)
    rw [Char.ofNat_toNat] at escaped
    simpa using List.all_eq_true.mp escaped d mem

namespace Event

theorem flat_map_traced_eq_message {event : Event}
    (harmless : ∀ c ∈ event.message, steersTerminal c = false) :
    event.message.flatMap traced = event.message :=
  List.append_cancel_right (event.line_eq_message harmless)

/-- How the line begins that tells of what an operation has done. -/
def outcomeLabel? : Event → Option Text
  | .changedDirectory _ => some "Changed to directory: ".toList
  | .copied _ _ => some "Copied: ".toList
  | .moved _ _ => some "Moved: ".toList
  | .readFrom _ => some "Read data from: ".toList
  | .wroteTo _ => some "Wrote to file: ".toList
  | .appendedTo _ => some "Appended to file: ".toList
  | .found _ _ _ => some "Found ".toList
  | _ => none

theorem is_outcome_eq_is_some (event : Event) : event.isOutcome = event.outcomeLabel?.isSome := by
  cases event <;> rfl

theorem begins_of_outcome_label {event : Event} {label : Text}
    (labelled : event.outcomeLabel? = some label) : label <+: event.message := by
  cases event with
  | changedDirectory | copied | moved | readFrom | wroteTo | appendedTo | found =>
    cases labelled
    unfold message
    simp only [List.append_assoc, List.prefix_append]
  | _ => cases labelled

end Event

namespace Application

/-! ## Asking for the trace -/

theorem bind_eq_ok_iff {ε α β : Type} {first : Except ε α} {next : α → Except ε β} {result : β} :
    (first >>= next) = .ok result ↔ ∃ answer, first = .ok answer ∧ next answer = .ok result := by
  cases first with
  | error error => exact ⟨nofun, nofun⟩
  | ok answer => exact ⟨fun done => ⟨answer, rfl, done⟩, fun ⟨_, same, done⟩ => by cases same; exact done⟩

namespace Choices

variable {choices after : Choices}

/-- The same choices with the trace. -/
def traced (choices : Choices) : Choices := { choices with verbose := true }

theorem checked_eq_ok_iff : choices.checked = .ok after ↔ choices.script ≠ some [] ∧ choices = after := by
  rw [checked]
  split
  · simp [*]
  · simp [*]

theorem take_script_eq_ok_iff {argument : Text} : choices.takeScript argument = .ok after ↔
    choices.script = none ∧ ⟨some argument, choices.verbose⟩ = after := by
  rw [takeScript]
  split
  · simp [*]
  · simp [*]

theorem verbose_of_take_letters {letters : Text} (nonempty : letters ≠ [])
    (taken : choices.takeLetters letters = .ok after) : after.verbose = true := by
  induction letters generalizing choices with
  | nil => exact absurd rfl nonempty
  | cons letter rest ih =>
    rw [takeLetters] at taken
    split at taken
    · obtain ⟨middle, -, taken⟩ := bind_eq_ok_iff.mp taken
      split at taken
      · cases taken
      · cases rest with
        | nil =>
          cases taken
          rfl
        | cons other others => exact ih (List.cons_ne_nil _ _) taken
    · split at taken
      · obtain ⟨middle, -, taken⟩ := bind_eq_ok_iff.mp taken
        cases taken
      · split at taken
        · obtain ⟨middle, -, taken⟩ := bind_eq_ok_iff.mp taken
          cases taken
        · cases taken

theorem take_long_ne_ok (choices : Choices) (flag : Text) : choices.takeLong flag ≠ .ok after := by
  intro taken
  unfold takeLong at taken
  dsimp only at taken
  split at taken
  · obtain ⟨answer, -, taken⟩ := bind_eq_ok_iff.mp taken
    split at taken
    · obtain ⟨middle, -, taken⟩ := bind_eq_ok_iff.mp taken
      cases taken
    · cases taken
  · split at taken
    · obtain ⟨answer, -, taken⟩ := bind_eq_ok_iff.mp taken
      split at taken
      · obtain ⟨middle, -, taken⟩ := bind_eq_ok_iff.mp taken
        cases taken
      · cases taken
    · cases taken

/-- Arguments that do not ask for the trace are read with it as they are without it. -/
theorem take_all_traced {onlyPaths : Bool} {arguments : List Text}
    (taken : choices.takeAll onlyPaths arguments = .ok after) :
    (choices.verbose = true → after.verbose = true) ∧
      (after.verbose = false → choices.traced.takeAll onlyPaths arguments = .ok after.traced) := by
  induction arguments generalizing choices onlyPaths with
  | nil =>
    obtain ⟨named, rfl⟩ := checked_eq_ok_iff.mp taken
    exact ⟨id, fun _ => checked_eq_ok_iff.mpr ⟨named, rfl⟩⟩
  | cons argument others ih =>
    have scriptTaken : ∀ {only}, (do takeAll (← choices.takeScript argument) only others) = .ok after →
        (choices.verbose = true → after.verbose = true) ∧ (after.verbose = false →
          (do takeAll (← choices.traced.takeScript argument) only others) = .ok after.traced) := by
      intro only taken
      obtain ⟨middle, named, taken⟩ := bind_eq_ok_iff.mp taken
      obtain ⟨nameless, rfl⟩ := take_script_eq_ok_iff.mp named
      obtain ⟨kept, again⟩ := ih taken
      refine ⟨kept, fun quiet => bind_eq_ok_iff.mpr ⟨_, ?_, again quiet⟩⟩
      exact take_script_eq_ok_iff.mpr ⟨nameless, rfl⟩
    unfold takeAll at taken ⊢
    split at taken
    · rw [if_pos (by assumption)]
      exact scriptTaken taken
    · rw [if_neg (by assumption)]
      split at taken
      · exact ih taken
      · obtain ⟨middle, impossible, -⟩ := bind_eq_ok_iff.mp taken
        exact absurd impossible (take_long_ne_ok _ _)
      · obtain ⟨middle, flagged, taken⟩ := bind_eq_ok_iff.mp taken
        have verbose := (ih taken).1 (verbose_of_take_letters (List.cons_ne_nil _ _) flagged)
        exact ⟨fun _ => verbose, fun quiet => absurd verbose (by rw [quiet]; exact Bool.false_ne_true)⟩
      · exact scriptTaken taken

/-- Reading that stops early, if at all, with the help, the version or a mistake, never with a run. -/
def StopsShort {α : Type} (reading : Except Stop α) : Prop :=
  ∀ script verbose, reading ≠ .error (.answer (.run script verbose))

namespace StopsShort

theorem ok {α : Type} (answer : α) : StopsShort (.ok answer) := fun _ _ => nofun

theorem misuse {α : Type} (misuse : Misuse) :
    StopsShort (.error (.misuse misuse) : Except Stop α) := fun _ _ => nofun

theorem bind {α β : Type} {first : Except Stop α} {next : α → Except Stop β}
    (short : StopsShort first)
    (nextShort : ∀ answer, first = .ok answer → StopsShort (next answer)) :
    StopsShort (first >>= next) := by
  cases first with
  | ok answer => exact nextShort answer rfl
  | error stop =>
    intro script verbose stopped
    cases stopped
    exact short script verbose rfl

theorem checked (choices : Choices) : StopsShort choices.checked := by
  unfold Choices.checked
  split
  · exact misuse _
  · exact ok _

theorem take_script (choices : Choices) (argument : Text) :
    StopsShort (choices.takeScript argument) := by
  unfold Choices.takeScript
  split
  · exact ok _
  · exact misuse _

theorem take_letters (choices : Choices) (letters : Text) :
    StopsShort (choices.takeLetters letters) := by
  induction letters generalizing choices with
  | nil => exact ok _
  | cons letter rest ih =>
    unfold Choices.takeLetters
    split
    · refine bind (checked choices) fun choices _ => ?_
      split
      · exact misuse _
      · exact ih _
    · split
      · exact bind (checked choices) fun _ _ _ _ => nofun
      · split
        · exact bind (checked choices) fun _ _ _ _ => nofun
        · exact misuse _

theorem take_long (choices : Choices) (flag : Text) : StopsShort (choices.takeLong flag) := by
  have answers : ∀ answer, (∀ script verbose, answer ≠ .run script verbose) →
      StopsShort (choices.checked >>= fun _ => (.error (.answer answer) : Except Stop Choices)) := by
    refine fun answer other => bind (checked choices) fun _ _ script verbose stopped => ?_
    cases stopped
    exact other script verbose rfl
  unfold Choices.takeLong
  dsimp only
  split
  · refine bind (ok Invocation.help) ?_
    rintro _ ⟨⟩
    split
    · exact answers .help (by simp)
    · exact misuse _
  · split
    · refine bind (ok Invocation.version) ?_
      rintro _ ⟨⟩
      split
      · exact answers .version (by simp)
      · exact misuse _
    · exact misuse _

theorem take_all (choices : Choices) (onlyPaths : Bool) (arguments : List Text) :
    StopsShort (choices.takeAll onlyPaths arguments) := by
  induction arguments generalizing choices onlyPaths with
  | nil => exact checked choices
  | cons argument others ih =>
    unfold Choices.takeAll
    split
    · exact bind (take_script choices argument) fun _ _ => ih _ _
    · split
      · exact ih _ _
      · exact bind (take_long choices _) fun _ _ => ih _ _
      · exact bind (take_letters choices _) fun _ _ => ih _ _
      · exact bind (take_script choices argument) fun _ _ => ih _ _

end StopsShort

end Choices

theorem of_arguments_eq_run_iff {arguments : List Text} {script : Path} {verbose : Bool} :
    Invocation.ofArguments arguments = .ok (.run script verbose) ↔
      Choices.takeAll ⟨none, false⟩ false arguments = .ok ⟨some script, verbose⟩ := by
  unfold Invocation.ofArguments
  rcases taken : Choices.takeAll ⟨none, false⟩ false arguments with stop | ⟨_ | script, verbose⟩
  · cases stop with
    | answer invocation =>
      have short : invocation ≠ .run script verbose := by
        rintro rfl
        exact Choices.StopsShort.take_all _ _ _ script verbose taken
      simpa using short
    | misuse misuse => simp
  · simp
  · simp

/-- The flag `-v` before arguments that ask for a run without the trace asks for the run with it. -/
theorem of_arguments_verbose {arguments : List Text} {script : Path}
    (quiet : Invocation.ofArguments arguments = .ok (.run script false)) :
    Invocation.ofArguments (['-', 'v'] :: arguments) = .ok (.run script true) := by
  rw [of_arguments_eq_run_iff] at quiet ⊢
  exact (Choices.take_all_traced quiet).2 rfl

/-! ## Two runs -/

section Run

variable {programs : Programs} {home : Option Text} {files : FileSystem} {script : Path}

theorem run_eq_run_script {arguments : List Text} {verbose : Bool}
    (asked : Invocation.ofArguments arguments = .ok (.run script verbose)) :
    run programs arguments home files = runScript programs home files script verbose := by
  rw [run, asked]

theorem run_script_verbose (programs : Programs) (home : Option Text) (files : FileSystem)
    (script : Path) :
    runScript programs home files script true =
      { runScript programs home files script false with
        output :=
          (Engine.runScript programs script (startMachine home files)).2.transcript.verbose } := by
  unfold runScript
  dsimp only
  split
  · rfl
  · rfl

theorem output_run_script_quiet : (runScript programs home files script false).output =
    (Engine.runScript programs script (startMachine home files)).2.output := by
  unfold runScript
  dsimp only
  split
  · rfl
  · rfl

theorem code_run_script_eq_zero_iff {verbose : Bool} :
    (runScript programs home files script verbose).code = 0 ↔
      (Engine.runScript programs script (startMachine home files)).1 = .ok () := by
  unfold runScript
  rcases Engine.runScript programs script (startMachine home files) with ⟨fault | answer, machine⟩
  · simp
  · simp

/-- The trace is faithful and changes nothing. However the two runs are asked for, the one with the trace
and the one without it agree in exit code, errors and files, and the outputs differ by the lines of the
events; the exit code is zero if the script succeeds. An event shows as its message, in which what could
steer a terminal is escaped, and a line feed. Of a script that is accepted, the run announces the
instructions that it takes up, in their order and each before all else that is recorded for it, and for
each of them it tells of the file operation if that succeeded. -/
theorem trace_is_faithful (programs : Programs) (home : Option Text) (files : FileSystem)
    (script : Path) :
    let start := startMachine home files
    let ran := Engine.runScript programs script start
    let transcript := ran.2.transcript
    (∀ quietArguments verboseArguments,
      Invocation.ofArguments quietArguments = .ok (.run script false) →
      Invocation.ofArguments verboseArguments = .ok (.run script true) →
      let quiet := run programs quietArguments home files
      let verbose := run programs verboseArguments home files
      verbose.code = quiet.code ∧ verbose.errors = quiet.errors ∧ verbose.files = quiet.files ∧
      (quiet.code = 0 ↔ ran.1 = .ok ()) ∧
      verbose.output = transcript.flatMap Entry.shown ∧
      quiet.output = (transcript.filter (!·.isEvent)).flatMap Entry.shown) ∧
    (∀ event : Event,
      Entry.shown (.event event) = Utf8.encode (event.message.flatMap traced ++ ['\n']) ∧
      (∀ c ∈ event.message.flatMap traced, steersTerminal c = false) ∧
      ((∀ c ∈ event.message, steersTerminal c = false) →
        event.message.flatMap traced = event.message) ∧
      event.isOutcome = event.outcomeLabel?.isSome ∧
      (∀ label, event.outcomeLabel? = some label → label <+: event.message)) ∧
    (∀ instruction : Instruction, (Engine.announcement instruction).message =
      "Executing: line ".toList ++ Text.decimal instruction.line ++ ": ".toList ++
        instruction.display) ∧
    (∀ bytes, Entry.shown (.output bytes) = bytes) ∧
    (∀ call, Entry.shown (.call call) = []) ∧
    (∀ arguments, Invocation.ofArguments arguments = .ok (.run script false) →
      Invocation.ofArguments (['-', 'v'] :: arguments) = .ok (.run script true)) ∧
    ∀ source instructions, files.textOf script = .ok source →
      Script.parse source = .ok instructions →
      let machine := Engine.opened start script
      ∃ taken result,
        Engine.TakesUp programs instructions machine taken result ran.2 ∧
        ran.1 = result.mapError .run ∧
        transcript = Engine.opening script ++
          (Engine.steps programs taken machine).flatMap (Engine.Step.record programs) ∧
        transcript.events.filter Event.isAnnouncement = taken.map Engine.announcement ∧
        ∀ step ∈ Engine.steps programs taken machine, step.IsTraced programs := by
  intro start ran transcript
  refine ⟨?_, ?_, fun _ => rfl, fun _ => rfl, fun _ => rfl, fun arguments => of_arguments_verbose, ?_⟩
  · intro quietArguments verboseArguments askedQuiet askedVerbose
    dsimp only
    rw [run_eq_run_script askedQuiet, run_eq_run_script askedVerbose, run_script_verbose]
    refine ⟨rfl, rfl, rfl, code_run_script_eq_zero_iff, Transcript.verbose_eq _, ?_⟩
    rw [output_run_script_quiet, Machine.output, Transcript.output_eq]
  · intro event
    refine ⟨rfl, ?_, Event.flat_map_traced_eq_message, Event.is_outcome_eq_is_some event,
      fun _ => Event.begins_of_outcome_label⟩
    intro c mem
    obtain ⟨d, -, mem⟩ := List.mem_flatMap.mp mem
    exact steers_terminal_of_mem_traced mem
  · intro source instructions readable accepted machine
    have ran_eq := (Engine.run_script_of_text_of readable).trans
      (Engine.run_source_of_parse accepted programs machine)
    rcases executed : (Engine.executeAll programs instructions).run machine with ⟨result, after⟩
    rw [executed] at ran_eq
    obtain ⟨taken, takesUp⟩ := Engine.exists_takes_up executed
    have transcript_eq : transcript = Engine.opening script ++
        (Engine.steps programs taken machine).flatMap (Engine.Step.record programs) := by
      have grown := Engine.transcript_machine_after programs taken machine
      rw [takesUp.machine_after_eq] at grown
      exact (congrArg (·.2.transcript) ran_eq).trans grown
    refine ⟨taken, result, ?_, congrArg Prod.fst ran_eq, transcript_eq, ?_, ?_⟩
    · rw [show ran.2 = after from congrArg Prod.snd ran_eq]
      exact takesUp
    · rw [transcript_eq, Transcript.events_append, List.filter_append]
      exact Engine.announcements_of_steps programs taken machine
    · exact fun step _ => Engine.is_traced programs step

/-- With the trace, a script of one `echo` shows three lines before its text. -/
theorem trace_of_echo :
    let s : Name := ⟨['s'], by decide⟩
    let files : FileSystem := .ofList [([s], .file (Utf8.encode "echo hi\n".toList) .created)]
    let echo : Instruction := ⟨1, .echo [⟨.word, ['h', 'i']⟩], [⟨.word, ['h', 'i']⟩]⟩
    let quiet := run Engine.onceSuccessful [['/', 's']] none files
    let verbose := run Engine.onceSuccessful [['-', 'v'], ['/', 's']] none files
    files.textOf ['/', 's'] = .ok "echo hi\n".toList ∧
    Script.parse "echo hi\n".toList = .ok [echo] ∧
    verbose.code = quiet.code ∧ quiet.code = 0 ∧
    quiet.output = Utf8.encode "hi\n\n".toList ∧
    verbose.output = Utf8.encode ("SCRIPTOR INTERPRETER VER 0.1.0\n" ++
      "Loaded contents of /s\nExecuting: line 1: echo hi\nhi\n\n").toList ∧
    ∃ result,
      Engine.TakesUp Engine.onceSuccessful [echo]
        (Engine.opened (startMachine none files) ['/', 's']) [echo] result
        (Engine.runScript Engine.onceSuccessful ['/', 's'] (startMachine none files)).2 := by
  intro s files echo quiet verbose
  have readable : files.textOf ['/', 's'] = .ok "echo hi\n".toList := by cbv
  have accepted : Script.parse "echo hi\n".toList = .ok [echo] := by cbv
  have asked : Invocation.ofArguments [['/', 's']] = .ok (.run ['/', 's'] false) := by cbv
  have recorded : (Engine.runScript Engine.onceSuccessful ['/', 's']
      (startMachine none files)).2.transcript = Engine.opening ['/', 's'] ++
        [.event (Engine.announcement echo), .output [104, 105, 10], .output [10]] := by
    cbv
  obtain ⟨same, -, -, -, -, askedVerbose, announces⟩ :=
    trace_is_faithful Engine.onceSuccessful none files ['/', 's']
  obtain ⟨code_eq, -, -, succeeds, verbose_eq, quiet_eq⟩ := same _ _ asked (askedVerbose _ asked)
  obtain ⟨taken, result, takesUp, -⟩ := announces _ _ readable accepted
  rw [recorded] at verbose_eq quiet_eq
  refine ⟨readable, accepted, code_eq, succeeds.mpr ?_, quiet_eq.trans ?_, verbose_eq.trans ?_, result,
    ?_⟩
  · cbv
  · decide +kernel
  · decide +kernel
  · have only : taken = [echo] := by
      cases takesUp with
      | all => rfl
      | upTo earlier failing later middle after fault split =>
        rcases List.append_eq_singleton_iff.mp split.symm with ⟨rfl, rest⟩ | ⟨-, rest⟩
        · cases rest
          rfl
        · cases rest
    rw [only] at takesUp
    exact takesUp

end Run

end Application

end LineScript
