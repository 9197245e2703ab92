import LineScript.Proofs.Engine.Atomicity
import LineScript.Proofs.Engine.Effects

/-!
# The requests of `each`

For the entries of a group, in their order, a template is started with the entry in the place of its
first `$$`, up to the first entry for which it fails. An entry becomes one argument as it is: it is put
in after the template was cut into words and its `~` were expanded. Without entries the template is not
even looked at.
-/

namespace LineScript

set_option autoImplicit false

namespace Command

theorem set_find_idx?_eq_replace (words : List Text) (place entry : Text) :
    (match words.findIdx? (· == place) with
      | some index => words.set index entry
      | none => words) = words.replace place entry := by
  induction words with
  | nil => rfl
  | cons word rest ih =>
      rw [List.findIdx?_cons, List.replace_cons, ← ih]
      by_cases here : word = place
      · simp [here]
      · have elsewhere : (place == word) = false := by simpa using fun same : place = word => here same.symm
        rw [elsewhere]
        cases rest.findIdx? (· == place) with
        | none => simp [here]
        | some index => simp [here]

/-- An entry takes the place of the first argument that is exactly the placeholder. -/
theorem fill_eq (template : Command) (entry : Text) :
    template.fill entry = ⟨template.program, template.arguments.replace placeholder entry⟩ := by
  rw [← set_find_idx?_eq_replace, fill, placeholder?]
  cases template.arguments.findIdx? (· == placeholder) with
  | none => rfl
  | some index => rfl

end Command

namespace Engine

open LineScript.Action

/-- The request to start a template with an entry in its place. -/
def entryLaunch (session : Session) (template : Command) (entry : Text) : Call :=
  .launch ⟨⟨template.program, template.arguments.replace ['$', '$'] entry⟩, session.directory⟩

/-- What `each` comes to for these entries and this command text: its requests, the bytes that it
writes, the blank line included, its result and the file system that it leaves. -/
inductive EachEnds (programs : Programs) (machine : Machine) (entries : List Text) (text : Text) :
    List Call → List UInt8 → Except RunFault Unit → FileSystem → Prop where
  | nothing (empty : entries = []) :
    EachEnds programs machine entries text [] [10] (.ok ()) machine.files
  | wordless (nonempty : entries ≠ []) (wordless : Text.words text = []) :
    EachEnds programs machine entries text [] [] (.error (.command text .noWords)) machine.files
  | all (program : Text) (words outputs : List Text) (template : Command) (after : FileSystem)
    (nonempty : entries ≠ []) (cut : Text.words text = program :: words)
    (template_eq : template = ⟨program, words.map machine.session.expandHome⟩)
    (ran : EntriesRun programs machine.session.directory template machine.transcript.launches
      machine.files entries outputs after) :
    EachEnds programs machine entries text (entries.map (entryLaunch machine.session template))
      (writtenBytes outputs ++ [10]) (.ok ()) after
  | upTo (program : Text) (words outputs done rest : List Text) (template : Command)
    (middle after : FileSystem) (failing : Text) (fault : RunFault)
    (split : entries = done ++ failing :: rest) (cut : Text.words text = program :: words)
    (template_eq : template = ⟨program, words.map machine.session.expandHome⟩)
    (ran : EntriesRun programs machine.session.directory template machine.transcript.launches
      machine.files done outputs middle)
    (failed : commandResult programs (machine.transcript.launches + done.length)
      ⟨template.fill failing, machine.session.directory⟩ middle = (.error fault, after)) :
    EachEnds programs machine entries text
      ((done ++ [failing]).map (entryLaunch machine.session template)) (writtenBytes outputs)
      (.error fault) after

/-! ## The loop -/

section Loop

variable {programs : Programs} {template : Command} {machine : Machine} {entry output : Text}
  {entries outputs : List Text} {files after : FileSystem} {fault : RunFault} {directory : Path}
  {started : Nat}

theorem advances_after_entry (machine : Machine) (template : Command) (entry : Text)
    (files : FileSystem) :
    machine.Advances [entryLaunch machine.session template entry] [] files
      (afterEntry machine template entry files) := by
  have reported := machine.advances_record_events [.entry entry]
  have launched := (machine.record (.event (.entry entry))).advances_after_launch
    (template.fill entry) files
  have both := reported.trans launched
  rw [afterEntry, Command.fill_eq]
  rw [Command.fill_eq] at both
  exact both

theorem run_entry_does (result : commandResult programs machine.transcript.launches
    ⟨template.fill entry, machine.session.directory⟩ machine.files = (.ok output, files)) :
    (runEntry programs template entry).Does machine [entryLaunch machine.session template entry]
      (Utf8.encode (output ++ ['\n'])) (.ok ()) files := by
  have ran := run_run_entry programs template entry machine
  rw [result] at ran
  exact Does.of_run_eq ran (advances_after_entry machine template entry files) (Does.write _ _)

theorem run_entry_fails (result : commandResult programs machine.transcript.launches
    ⟨template.fill entry, machine.session.directory⟩ machine.files = (.error fault, files)) :
    (runEntry programs template entry).Does machine [entryLaunch machine.session template entry] []
      (.error fault) files := by
  have ran := run_run_entry programs template entry machine
  rw [result] at ran
  exact Does.of_run ran (advances_after_entry machine template entry files)

theorem count_p_entry_launch (session : Session) (template : Command) (entries : List Text) :
    (entries.map (entryLaunch session template)).countP Call.isLaunch = entries.length := by
  rw [List.countP_map, List.countP_eq_length.mpr]
  intro entry _
  rfl

/-- The induction is on the run of the entries: what one entry leaves is where the next one starts. -/
theorem for_m_run_entry_does
    (ran : EntriesRun programs directory template started files entries outputs after)
    (directory_eq : machine.session.directory = directory)
    (started_eq : machine.transcript.launches = started) (files_eq : machine.files = files) :
    (entries.forM (runEntry programs template)).Does machine
      (entries.map (entryLaunch machine.session template)) (writtenBytes outputs) (.ok ()) after := by
  induction ran generalizing machine with
  | nil =>
      subst files_eq
      exact Does.of_run rfl (Machine.Advances.refl machine)
  | cons result _ ih =>
      subst directory_eq started_eq files_eq
      apply Does.bind (run_entry_does result)
      intro middle advances
      have session_eq := advances.session_eq
      have launches_eq := advances.launches_eq
      have rest := ih (by rw [session_eq]) launches_eq advances.files_eq
      rwa [session_eq] at rest

theorem for_m_run_entry_fails {middle : FileSystem} {done rest : List Text} {failing : Text}
    (ran : EntriesRun programs machine.session.directory template machine.transcript.launches
      machine.files done outputs middle)
    (failed : commandResult programs (machine.transcript.launches + done.length)
      ⟨template.fill failing, machine.session.directory⟩ middle = (.error fault, after)) :
    ((done ++ failing :: rest).forM (runEntry programs template)).Does machine
      ((done ++ [failing]).map (entryLaunch machine.session template)) (writtenBytes outputs)
      (.error fault) after := by
  have earlier := for_m_run_entry_does ran rfl rfl rfl
  have both : (done.forM (runEntry programs template) >>=
      fun _ => (failing :: rest).forM (runEntry programs template)).Does machine
      (done.map (entryLaunch machine.session template) ++
        [entryLaunch machine.session template failing]) (writtenBytes outputs ++ []) (.error fault)
      after := by
    apply Does.bind earlier
    intro middle advances
    have launches_eq := advances.launches_eq
    -- Every entry before the failing one has started one process.
    rw [count_p_entry_launch] at launches_eq
    rw [← advances.session_eq, ← launches_eq, ← advances.files_eq] at failed
    have last := run_entry_fails failed
    rw [advances.session_eq] at last
    exact Does.bind_error last
  have split : (done ++ failing :: rest).forM (runEntry programs template) =
      (done.forM (runEntry programs template) >>=
        fun _ => (failing :: rest).forM (runEntry programs template)) := List.forM_append
  rw [List.append_nil] at both
  rwa [List.map_append, List.map_singleton, split]

theorem entries_run_or_fail (programs : Programs) (directory : Path) (template : Command)
    (started : Nat) (files : FileSystem) (entries : List Text) :
    (∃ outputs after, EntriesRun programs directory template started files entries outputs after) ∨
      ∃ done failing rest outputs middle fault after, entries = done ++ failing :: rest ∧
        EntriesRun programs directory template started files done outputs middle ∧
        commandResult programs (started + done.length) ⟨template.fill failing, directory⟩ middle =
          (.error fault, after) := by
  induction entries generalizing started files with
  | nil => exact .inl ⟨[], files, .nil⟩
  | cons entry rest ih =>
      rcases result : commandResult programs started ⟨template.fill entry, directory⟩ files with
        ⟨fault | output, after⟩
      · exact .inr ⟨[], entry, rest, [], files, fault, after, rfl, .nil, result⟩
      · rcases ih (started + 1) after with ⟨outputs, last, ran⟩ |
          ⟨done, failing, later, outputs, middle, fault, last, split, ran, failed⟩
        · exact .inl ⟨output :: outputs, last, .cons result ran⟩
        · refine .inr ⟨entry :: done, failing, later, output :: outputs, middle, fault, last, ?_,
            .cons result ran, ?_⟩
          · rw [split, List.cons_append]
          · rw [← failed, List.length_cons, Nat.add_comm done.length 1, Nat.add_assoc]

theorem exists_each_ends (programs : Programs) (machine : Machine) (entries : List Text) (text : Text) :
    ∃ calls written result files,
      EachEnds programs machine entries text calls written result files := by
  by_cases empty : entries = []
  · exact ⟨_, _, _, _, .nothing empty⟩
  · cases cut : Text.words text with
    | nil => exact ⟨_, _, _, _, .wordless empty cut⟩
    | cons program words =>
        have ended := entries_run_or_fail programs machine.session.directory
          ⟨program, words.map machine.session.expandHome⟩ machine.transcript.launches machine.files
          entries
        rcases ended with ⟨outputs, after, ran⟩ |
          ⟨done, failing, rest, outputs, middle, fault, after, split, ran, failed⟩
        · exact ⟨_, _, _, _, .all program words outputs _ after empty cut rfl ran⟩
        · exact ⟨_, _, _, _, .upTo program words outputs done rest _ middle after failing fault split
            cut rfl ran failed⟩

end Loop

/-! ## The whole instruction -/

section Instruction

variable {programs : Programs} {machine : Machine} {group : Text} {token : Token} {calls : List Call}
  {written : List UInt8} {files : FileSystem}

theorem run_run_each_of_entries (programs : Programs) (token : Token)
    (nonempty : machine.session.group group ≠ []) :
    (runEach programs group token).run machine =
      (runEntries programs (machine.session.group group) token).run machine := by
  rw [run_run_each]
  cases entries : machine.session.group group with
  | nil => exact absurd entries nonempty
  | cons entry rest => rfl

/-- Nothing but the session and the files of the machine matters when `each` begins. -/
theorem run_each_does_nothing {start : Machine} (programs : Programs) (token : Token)
    (heard : machine.Advances [] [] machine.files start) (empty : machine.session.group group = []) :
    (runEach programs group token).Does start [] [] (.ok ()) machine.files := by
  have ran := run_run_each programs group token start
  rw [heard.session_eq, empty] at ran
  rw [← heard.files_eq]
  exact Does.of_run ran (start.advances_record_events [.emptyGroup group])

theorem run_each_fails_wordless {start : Machine} (programs : Programs)
    (heard : machine.Advances [] [] machine.files start) (nonempty : machine.session.group group ≠ [])
    (wordless : Text.words (machine.session.resolve token) = []) :
    (runEach programs group token).Does start [] []
      (.error (.command (machine.session.resolve token) .noWords)) machine.files := by
  have missing : Command.ofText? machine.session (machine.session.resolve token) = none := by
    rw [Command.ofText?, wordless]
  rw [← heard.session_eq] at nonempty missing ⊢
  have ran := run_run_each_of_entries programs token nonempty
  rw [runEntries, run_bind, run_resolve_command, missing] at ran
  rw [← heard.files_eq]
  exact Does.of_run ran (start.advances_record_events _)

theorem run_each_does_entries {start : Machine} {result : Except RunFault Unit} {program : Text}
    {words : List Text} (heard : machine.Advances [] [] machine.files start)
    (nonempty : machine.session.group group ≠ [])
    (cut : Text.words (machine.session.resolve token) = program :: words)
    (does : ∀ resolved, machine.Advances [] [] machine.files resolved →
      ((machine.session.group group).forM
        (runEntry programs ⟨program, words.map machine.session.expandHome⟩)).Does resolved calls
          written result files) :
    (runEach programs group token).Does start calls written result files := by
  have found : Command.ofText? machine.session (machine.session.resolve token) =
      some ⟨program, words.map machine.session.expandHome⟩ := by
    rw [Command.ofText?, cut]
  have read := start.advances_record_events (unboundEvents start.session [token])
  have all := heard.trans (heard.files_eq ▸ read)
  rw [← heard.session_eq] at nonempty found does
  have ran := run_run_each_of_entries programs token nonempty
  rw [runEntries, run_bind, run_resolve_command, found] at ran
  exact Does.of_run_eq ran read (does _ all)

theorem each_does (number : Nat) (parameters : List Token) {result : Except RunFault Unit}
    (ends : EachEnds programs machine (machine.session.group group) (machine.session.resolve token)
      calls written result files) :
    (execute programs ⟨number, .each group token, parameters⟩).Does machine calls written result
      files := by
  generalize instruction_eq : Instruction.mk number (.each group token) parameters = instruction
  have performed : perform programs instruction.operation = runEach programs group token := by
    rw [← instruction_eq]
    rfl
  have heard : machine.Advances [] [] machine.files (announced machine instruction) :=
    machine.advances_record_events _
  -- Each way to end fixes what is performed; the blank line follows only a success.
  cases ends with
  | nothing empty =>
      have does := run_each_does_nothing programs token heard empty
      rw [← performed] at does
      exact execute_does instruction does
  | wordless nonempty wordless =>
      have does := run_each_fails_wordless programs heard nonempty wordless
      rw [← performed] at does
      exact execute_fails instruction does
  | all program words outputs template after nonempty cut template_eq ran =>
      apply execute_does
      rw [performed]
      apply run_each_does_entries heard nonempty cut
      intro resolved advances
      have does := for_m_run_entry_does ran (congrArg Session.directory advances.session_eq)
        advances.launches_eq advances.files_eq
      rw [advances.session_eq] at does
      rwa [← template_eq]
  | upTo program words outputs done rest template middle after failing fault split cut template_eq ran
      failed =>
      apply execute_fails
      rw [performed]
      apply run_each_does_entries heard (by simp [split]) cut
      intro resolved advances
      have launches_eq : resolved.transcript.launches = machine.transcript.launches :=
        advances.launches_eq
      rw [← advances.session_eq, ← launches_eq] at ran failed
      rw [← advances.files_eq] at ran
      rw [split, ← template_eq, ← advances.session_eq]
      exact for_m_run_entry_fails ran failed

end Instruction

/-- For every entry of the group, in order and up to the first that fails, `each` starts its command with
the entry in the place of the first argument that is the placeholder. This is all that it asks of the
host, and the session stays as it was. -/
theorem each_starts_command_for_entries (programs : Programs) (number : Nat) (parameters : List Token)
    (group : Text) (token : Token) (machine : Machine) :
    let action := execute programs ⟨number, .each group token, parameters⟩
    let Ends := EachEnds programs machine (machine.session.group group) (machine.session.resolve token)
    (∃ calls written result files, Ends calls written result files) ∧
    (∀ calls written result files, Ends calls written result files →
      action.Does machine calls written result files) ∧
    (action.run machine).2.session = machine.session ∧
    ∀ (template : Command) (entry : Text), template.fill entry =
      ⟨template.program, template.arguments.replace ['$', '$'] entry⟩ := by
  intro action Ends
  refine ⟨?_, ?_, ?_, Command.fill_eq⟩
  · exact exists_each_ends programs machine _ _
  · intro calls written result files ends
    exact each_does number parameters ends
  · have keeps : KeepsSession action := by
      apply KeepsSession.bind (IsQuiet.report _).keeps_session
      intro _
      exact KeepsSession.bind (run_each_keeps_session programs group token) fun _ =>
        write_keeps_session ['\n']
    exact keeps machine

/-- The first program succeeds and the second fails, so that a third is not started. -/
theorem each_starts_command_until_second_entry :
    let session := (Session.start ['/'] (some ['/', 'h'])).setGroup ['g']
      [['~', ' ', 'b'], ['$', '$'], ['c']]
    let token : Token := ⟨.quoted, "\"p ~ x$$ $$ $$\"".toList⟩
    let machine := Machine.start session ⟨[], []⟩ none
    ∃ fault after, (execute onceSuccessful ⟨1, .each ['g'] token, []⟩).run machine =
        (.error fault, after) ∧
      after.transcript.calls =
        [.launch ⟨⟨['p'], [['/', 'h'], ['x', '$', '$'], ['~', ' ', 'b'], ['$', '$']]⟩, ['/']⟩,
          .launch ⟨⟨['p'], [['/', 'h'], ['x', '$', '$'], ['$', '$'], ['$', '$']]⟩, ['/']⟩] ∧
      after.output = [97, 10] ∧ after.session = session := by
  intro session token machine
  have split : machine.session.group ['g'] = [['~', ' ', 'b']] ++ ['$', '$'] :: [['c']] := rfl
  have cut : Text.words (machine.session.resolve token) =
      ['p'] :: [['~'], ['x', '$', '$'], ['$', '$'], ['$', '$']] := by decide
  obtain ⟨-, does, unchanged, -⟩ :=
    each_starts_command_for_entries onceSuccessful 1 [] ['g'] token machine
  have first : EntriesRun onceSuccessful ['/']
      ⟨['p'], [['/', 'h'], ['x', '$', '$'], ['$', '$'], ['$', '$']]⟩ 0 ⟨[], []⟩ [['~', ' ', 'b']] [['a']]
      ⟨[], []⟩ := .cons rfl .nil
  have second : commandResult onceSuccessful 1
      ⟨⟨['p'], [['/', 'h'], ['x', '$', '$'], ['$', '$'], ['$', '$']]⟩, ['/']⟩ ⟨[], []⟩ = _ := rfl
  have ends : EachEnds onceSuccessful machine (machine.session.group ['g'])
      (machine.session.resolve token) _ _ _ _ :=
    .upTo _ _ _ _ _ _ _ _ _ _ split cut rfl first second
  obtain ⟨after, ran, advances⟩ := (does _ _ _ _ ends).fits nofun
  rw [ran] at unchanged
  exact ⟨_, after, ran, advances.calls_eq, advances.output_eq, unchanged⟩

end Engine

end LineScript
