import LineScript.Proofs.Engine.Sequences
import LineScript.Proofs.Script.References

/-!
# Bindings and references

An instruction binds a variable under the name that its target token gives. Whether a line can read it
is told by that token, and what a line reads is the value of the last instruction that bound the name.
-/

namespace LineScript

set_option autoImplicit false

/-! ## Targets -/

namespace Instruction

/-- The token that names the variable which the instruction binds. -/
def target? (instruction : Instruction) : Option Token :=
  match instruction.operation with
  | .set _ _ => instruction.parameters[0]?
  | .execute _ _ | .read _ _ => instruction.parameters[1]?
  | _ => none

theorem exists_target {instruction : Instruction} {name : Text}
    (fits : Operation.ofParameters instruction.operation.keyword instruction.parameters =
      .ok instruction.operation)
    (binds : instruction.operation.boundVariable? = some name) :
    ∃ target, instruction.target? = some target ∧ target ∈ instruction.parameters ∧
      target.bindingName = name := by
  obtain ⟨line, operation, parameters⟩ := instruction
  obtain ⟨-, placed⟩ := Operation.of_parameters_keyword_eq_ok_iff.mp fits
  cases operation with
  | set bound value =>
    obtain ⟨target, standing, names⟩ := Option.map_eq_some_iff.mp placed.1
    cases binds
    exact ⟨target, standing, List.mem_of_getElem? standing, names⟩
  | execute command capture =>
    obtain ⟨target, standing, names⟩ := Option.map_eq_some_iff.mp (placed.2.trans binds)
    exact ⟨target, standing, List.mem_of_getElem? standing, names⟩
  | read source capture =>
    obtain ⟨target, standing, names⟩ := Option.map_eq_some_iff.mp (placed.2.trans binds)
    exact ⟨target, standing, List.mem_of_getElem? standing, names⟩
  | _ => cases binds

end Instruction

namespace Engine

open LineScript.Action

variable {programs : Programs} {name : Text}

theorem bound_variable?_eq_some_iff {operation : Operation} :
    operation.boundVariable? = some name ↔ subject? operation = some (.variable name) := by
  cases operation with
  | execute command capture => cases capture <;> simp [Operation.boundVariable?, subject?]
  | read source target => cases target <;> simp [Operation.boundVariable?, subject?]
  | _ => simp [Operation.boundVariable?, subject?]

/-! ## Until a name is bound again -/

/-- The step binds the name: its operation names it and succeeds, on an output without a limit. -/
def Step.Binds (programs : Programs) (name : Text) (step : Step) : Prop :=
  step.operation.boundVariable? = some name ∧
    ((execute programs step.instruction).run (step.machine.withRoom none)).1 = .ok ()

theorem value_of?_of_not_binds {step : Step} (silent : ¬ step.Binds programs name) :
    (step.after programs).session.valueOf? name = step.machine.session.valueOf? name := by
  have truncates := execute_truncates programs step.instruction
  rw [Step.after, truncates.session_eq step.machine]
  have other := (truncates step.machine 0).unlimited_ne_output_full
  rcases ran : (execute programs step.instruction).run (step.machine.withRoom none) with
    ⟨fault | answer, after⟩
  · rw [ran] at other
    have different : fault ≠ .outputFull := fun same => other (by rw [same])
    rw [(execute_stopped ran different).1]
    rfl
  · obtain ⟨about, -⟩ | ⟨-, same⟩ := @Updates.decides_variable programs
      ⟨step.machine.withRoom none, step.instruction⟩ _ name (updates_of_instruction ran)
    · exact absurd ⟨bound_variable?_eq_some_iff.mpr about, by rw [ran]⟩ silent
    · exact same

theorem value_of?_machine_after {instructions : List Instruction} {machine : Machine}
    (silent : ∀ step ∈ steps programs instructions machine, ¬ step.Binds programs name) :
    (machineAfter programs instructions machine).session.valueOf? name =
      machine.session.valueOf? name := by
  refine @machine_after_invariant programs
    (fun reached => reached.session.valueOf? name = machine.session.valueOf? name) _ _ rfl ?_
  intro step member held
  rw [value_of?_of_not_binds (silent step member), held]

theorem session_of_binding {instruction : Instruction} {machine after : Machine}
    (binds : instruction.operation.boundVariable? = some name)
    (ran : (execute programs instruction).run machine = (.ok (), after)) :
    ∃ value, BoundValue programs machine instruction.operation value ∧
      after.session = machine.session.setVariable name value := by
  have about := bound_variable?_eq_some_iff.mp binds
  have updates := updates_of_instruction ran
  generalize after.session = session at updates
  cases updates with
  | binds bound value subject value_eq =>
    cases about.symm.trans subject
    exact ⟨value, value_eq, rfl⟩
  | fills group paths subject => cases about.symm.trans subject
  | enters directory subject => cases about.symm.trans subject
  | nothing subject => cases about.symm.trans subject

/-- What an instruction binds can be read in some line exactly if the name is made of name characters,
which the token that names it tells; then a reference reads it until the name is bound again. -/
theorem references_read_bindings (programs : Programs) {source line : Text} {number : Nat}
    {instruction : Instruction} {machine after : Machine}
    (built : Script.parseLine source line number = .ok instruction)
    (binds : instruction.operation.boundVariable? = some name)
    (ran : (execute programs instruction).run machine = (.ok (), after)) :
    ((∃ line, ∃ token ∈ Token.scan line, token.ReadsName name) ↔ Token.IsReferable name) ∧
    (Token.IsReferable name →
      (∀ rest : Text, rest = [] ∨ rest.head? = some ' ' →
        Token.scan ('$' :: name ++ rest) = ⟨.variable, '$' :: name⟩ :: Token.scan rest) ∧
      ∃ value, BoundValue programs machine instruction.operation value ∧
        ∀ later, (∀ step ∈ steps programs later after, ¬ step.Binds programs name) →
          (machineAfter programs later after).session.lookup ('$' :: name) = value) ∧
    ∃ target ∈ Token.scan (Text.trim line), instruction.target? = some target ∧
      target.bindingName = name ∧ (Token.IsReferable name ↔ target.NamesReferable) := by
  refine ⟨Token.exists_reads_name_iff, ?_, ?_⟩
  · intro referable
    refine ⟨fun rest => Token.scan_reference referable, ?_⟩
    obtain ⟨value, value_eq, session_eq⟩ := session_of_binding binds ran
    refine ⟨value, value_eq, ?_⟩
    intro later silent
    rw [Session.lookup, Token.variable_name_reference referable.has_shape,
      value_of?_machine_after silent, session_eq, Session.value_of?_set_variable_self]
    rfl
  · obtain ⟨parameters_eq, fits⟩ := Instruction.fits_of_parse_line built
    obtain ⟨target, found, member, rfl⟩ := Instruction.exists_target fits binds
    rw [parameters_eq] at member
    have written := List.mem_of_mem_tail member
    exact ⟨target, written, found, rfl,
      Token.is_referable_binding_name_iff (Token.shape_of_mem_scan written).1⟩

/-- What is bound under a word for a search pattern cannot be read. -/
theorem references_read_bindings_of_names_only :
    let named : Instruction := ⟨1, .set ['x'] ⟨.word, ['1']⟩, [⟨.word, ['x']⟩, ⟨.word, ['1']⟩]⟩
    let starred : Instruction := ⟨1, .set ['*'] ⟨.word, ['1']⟩, [⟨.word, ['*']⟩, ⟨.word, ['1']⟩]⟩
    let machine := Machine.start (.start ['/'] none) (.ofList []) none
    let after := ((execute onceSuccessful named).run machine).2
    Script.parseLine [] named.display 1 = .ok named ∧
      Script.parseLine [] starred.display 1 = .ok starred ∧
      (machineAfter onceSuccessful [starred] after).session.lookup ['$', 'x'] = ['1'] ∧
      ¬ ∃ line, ∃ token ∈ Token.scan line, token.ReadsName ['*'] := by
  intro named starred machine after
  have letter : Text.isAlphanumeric 'x' = true := Text.is_alphanumeric_of_ascii (by decide)
  have digit : Text.isAlphanumeric '1' = true := Text.is_alphanumeric_of_ascii (by decide)
  have shape : ∀ c, isWordChar c = true → Token.HasShape ⟨.word, [c]⟩ := by
    intro c accepted
    exact .word [c] (by simp) (by simpa using accepted)
  have shapeOne := shape '1' (by simp [isWordChar, isNameChar, digit])
  have readable : named.IsReadable := by
    refine ⟨?_, by decide, rfl⟩
    simpa [named] using ⟨shape 'x' (by simp [isWordChar, isNameChar, letter]), shapeOne⟩
  have readableStarred : starred.IsReadable := by
    refine ⟨?_, by decide, rfl⟩
    simpa [starred] using ⟨shape '*' (by decide), shapeOne⟩
  have parsed := Instruction.parse_line_display readable [] 1
  have parsedStarred := Instruction.parse_line_display readableStarred [] 1
  have succeeds : ((execute onceSuccessful named).run machine).1 = .ok () := by cbv
  have succeedsStarred : ((execute onceSuccessful starred).run machine).1 = .ok () := by cbv
  have referable : Token.IsReferable ['x'] := ⟨by decide, by simp [isNameChar, letter]⟩
  have ran : (execute onceSuccessful named).run machine = (.ok (), after) := Prod.ext succeeds rfl
  obtain ⟨-, reads, -⟩ := references_read_bindings onceSuccessful parsed rfl ran
  obtain ⟨-, value, value_eq, kept⟩ := reads referable
  have other : ∀ step ∈ steps onceSuccessful [starred] after,
      ¬ step.Binds onceSuccessful ['x'] := by
    simp [steps, Step.Binds, Step.operation, starred, Operation.boundVariable?]
  obtain ⟨never, -, -⟩ :=
    references_read_bindings onceSuccessful parsedStarred rfl (Prod.ext succeedsStarred rfl)
  have unreferable : ¬ Token.IsReferable ['*'] := by
    rintro ⟨-, accepted⟩
    exact absurd (accepted '*' List.mem_cons_self) (by decide)
  refine ⟨parsed, parsedStarred, ?_, fun read => unreferable (never.mp read)⟩
  rw [kept [starred] other, show value = _ from value_eq]
  rfl

end Engine

end LineScript
