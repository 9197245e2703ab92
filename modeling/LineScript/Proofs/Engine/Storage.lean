import LineScript.Proofs.Engine.Composition
import LineScript.Proofs.Engine.Literals
import LineScript.Proofs.FileSystem.Contents
import LineScript.Proofs.Text.Utf8

/-!
# Files that are read and written

What `read`, `write` and `append` do when the host lets them. A text that is read into a variable is
printed as it is; written back through the variable it loses one layer of quotes, and its `~` is
expanded.
-/

namespace LineScript

set_option autoImplicit false

namespace FileSystem

variable {files : FileSystem} {path : Path} {text : Text}

theorem text_of_eq_ok_iff :
    files.textOf path = .ok text ↔ files.contentOf path = .ok (Utf8.encode text) := by
  unfold textOf
  rcases files.contentOf path with error | bytes
  · simp
  · rw [Except.ok.injEq, ← Utf8.decode?_eq_some_iff]
    dsimp only
    cases Utf8.decode? bytes <;> simp

/-- What can be read is also there when the host is asked about the entry itself. -/
theorem exists_link_status_of_text_of (readable : files.textOf path = .ok text) :
    ∃ entry, files.linkStatus path = .ok entry := by
  have content := text_of_eq_ok_iff.mp readable
  unfold contentOf at content
  rcases found : files.status path with error | ⟨location, node⟩
  · rw [found] at content
    cases content
  · exact exists_link_status found

end FileSystem

namespace Action

theorem Does.change {update : FileSystem → Except HostError FileSystem} {machine : Machine}
    {changed : FileSystem} {blame : HostError → RunFault} {call : Call}
    (accepted : update machine.files = .ok changed) :
    (Action.change call update blame).Does machine [call] [] (.ok ()) changed := by
  have ran := run_change call update blame machine
  rw [accepted] at ran
  refine .of_run ran ⟨rfl, rfl, ?_, ?_, (Machine.map_sub_zero _).symm⟩
  · exact machine.calls_record_call call
  · exact (machine.output_record_call call).trans (List.append_nil _).symm

theorem Does.report (event : Event) {machine : Machine} {files : FileSystem}
    (kept : machine.files = files) : (Action.report event).Does machine [] [] (.ok ()) files := by
  subst kept
  exact .of_run (run_report event machine) (machine.advances_record_events [event])

end Action

namespace Engine

open LineScript.Action

variable {programs : Programs} {machine : Machine}

/-! ## Reading -/

theorem exists_run_read {source : Token} {name content : Text}
    (readable : machine.files.textOf (machine.session.resolvePath source) = .ok content) :
    ∃ after, (perform programs (.read source (some name))).run machine = (.ok (), after) ∧
      after.session = machine.session.setVariable name content ∧ after.files = machine.files ∧
        after.room = machine.room := by
  obtain ⟨entry, present⟩ := FileSystem.exists_link_status_of_text_of readable
  rw [perform, run_bind, run_resolve_path]
  dsimp only
  rw [run_bind, ensurePresent, run_bind, run_demand, Machine.files_record_events, present]
  dsimp only [Except.mapError]
  rw [run_pure]
  dsimp only
  rw [run_bind, run_demand, Machine.files_record, Machine.files_record_events, readable]
  refine ⟨_, rfl, ?_, ?_, ?_⟩
  · simp
  · simp
  · simp [Machine.record]

/-- A text that can be read is bound; the blank line after it is all that can fail. -/
theorem execute_read {instruction : Instruction} {source : Token} {name content : Text}
    (reads : instruction.operation = .read source (some name))
    (readable : machine.files.textOf (machine.session.resolvePath source) = .ok content) :
    let ran := (execute programs instruction).run machine
    ran.2.session = machine.session.setVariable name content ∧ ran.2.files = machine.files ∧
      (machine.Takes [10] → ran.1 = .ok ()) := by
  have told := machine.advances_record_events [.executing instruction.line instruction.display]
  have here : (announced machine instruction).files.textOf
      ((announced machine instruction).session.resolvePath source) = .ok content := by
    rw [announced, told.files_eq, told.session_eq]
    exact readable
  obtain ⟨middle, ran, session_eq, files_eq, room_eq⟩ := @exists_run_read programs _ _ name _ here
  dsimp only
  rw [run_execute, run_bind, reads, ran]
  dsimp only
  refine ⟨?_, ?_, ?_⟩
  · rw [write_keeps_session ['\n'], session_eq, announced, told.session_eq]
  · have composed : IsComposed False False (write ['\n']) := .write _
    rw [composed.files_eq Prod.mk.eta.symm, files_eq, announced, told.files_eq]
  · intro takes
    have room : middle.Takes [10] := by
      rw [Machine.Takes, room_eq, announced, Machine.room_record_events]
      exact takes
    obtain ⟨after, wrote, -⟩ := (Does.write ['\n'] middle).fits room
    rw [wrote]

/-! ## Writing -/

/-- What `write` and `append` have in common. -/
def storing (token data : Token) (event : Path → Event) (call : Path → Call)
    (update : Path → Text → FileSystem → Except HostError FileSystem) (attempt : Attempt) :
    Action Unit := do
  let path ← resolvePath token
  let data ← resolve data
  Action.change (call path) (update path data) (.host attempt path)
  Action.report (event path)

theorem perform_write (programs : Programs) (token data : Token) :
    perform programs (.write token data) = storing token data .wroteTo .write
      (fun path data files => files.write path (Utf8.encode data)) .writeTo := by
  rw [perform, storing]

theorem perform_append (programs : Programs) (token data : Token) :
    perform programs (.append token data) = storing token data .appendedTo .append
      (fun path data files => files.append path (Utf8.encode data)) .appendTo := by
  rw [perform, storing]

section Storing

variable {token data : Token} {event : Path → Event} {call : Path → Call} {attempt : Attempt}
  {update : Path → Text → FileSystem → Except HostError FileSystem} {changed : FileSystem}
  {instruction : Instruction}

theorem run_storing (token data : Token) (event : Path → Event) (call : Path → Call)
    (update : Path → Text → FileSystem → Except HostError FileSystem) (attempt : Attempt)
    (machine : Machine) :
    let path := machine.session.resolvePath token
    let text := machine.session.resolve data
    (storing token data event call update attempt).run machine =
      (Action.change (call path) (update path text) (.host attempt path) >>= fun _ =>
        Action.report (event path)).run
          ((machine.recordEvents (unboundEvents machine.session [token])).recordEvents
            (unboundEvents machine.session [data])) := by
  dsimp only
  rw [storing, run_bind, run_resolve_path]
  dsimp only
  rw [run_bind, run_resolve]
  dsimp only
  rw [Machine.session_record_events]

theorem storing_does (stored : update (machine.session.resolvePath token)
      (machine.session.resolve data) machine.files = .ok changed) :
    (storing token data event call update attempt).Does machine
      [call (machine.session.resolvePath token)] [] (.ok ()) changed := by
  have first := machine.advances_record_events (unboundEvents machine.session [token])
  have second := (machine.recordEvents (unboundEvents machine.session [token])).advances_record_events
    (unboundEvents machine.session [data])
  have resolved := first.trans second
  rw [Machine.files_record_events] at resolved
  refine .of_run_eq (run_storing token data event call update attempt machine) resolved ?_
  rw [← resolved.files_eq] at stored
  exact .bind (.change stored) fun _ advances => .report _ advances.files_eq

theorem execute_storing_does
    (stores : perform programs instruction.operation = storing token data event call update attempt)
    (stored : update (machine.session.resolvePath token) (machine.session.resolve data)
      machine.files = .ok changed) :
    (execute programs instruction).Does machine [call (machine.session.resolvePath token)] [10]
      (.ok ()) changed := by
  have told := machine.advances_record_events [.executing instruction.line instruction.display]
  rw [← told.session_eq, ← told.files_eq] at stored
  have performed := @storing_does _ token data event call attempt update changed stored
  rw [← stores] at performed
  have executed := execute_does instruction performed
  rwa [told.session_eq] at executed

theorem files_of_storing {after : Machine}
    (ran : (storing token data event call update attempt).run machine = (.ok (), after)) :
    update (machine.session.resolvePath token) (machine.session.resolve data) machine.files =
      .ok after.files := by
  rw [run_storing, run_bind, run_change, Machine.files_record_events, Machine.files_record_events]
    at ran
  rcases stored : update (machine.session.resolvePath token) (machine.session.resolve data)
      machine.files with error | changed
  · rw [stored] at ran
    cases ran
  · rw [stored] at ran
    cases ran
    rfl

end Storing

/-! ## Through a variable -/

theorem perform_echo_does (programs : Programs) (arguments : List Token) (machine : Machine) :
    (perform programs (.echo arguments)).Does machine []
      (Utf8.encode (Text.join [' '] (arguments.map machine.session.echoed) ++ ['\n'])) (.ok ())
      machine.files := by
  have told := machine.advances_record_events (unboundEvents machine.session arguments)
  have wrote := Does.write (Text.join [' '] (arguments.map machine.session.echoed) ++ ['\n'])
    (machine.recordEvents (unboundEvents machine.session arguments))
  rw [told.files_eq] at wrote
  exact .of_run_eq (run_perform_echo programs arguments machine) told wrote

theorem echo_reference_does {instruction : Instruction} {name : Text}
    (echoes : instruction.operation = .echo [⟨.variable, '$' :: name⟩]) (machine : Machine) :
    (execute programs instruction).Does machine []
      (Utf8.encode (machine.session.lookup ('$' :: name)) ++ [10] ++ [10]) (.ok ()) machine.files := by
  have told := machine.advances_record_events [.executing instruction.line instruction.display]
  have performed := perform_echo_does programs [⟨.variable, '$' :: name⟩]
    (announced machine instruction)
  rw [← echoes, announced, told.session_eq, told.files_eq, Utf8.encode_append] at performed
  exact execute_does instruction performed

/-- A text that is read from a file into a variable is printed as it is, and what is stored through the
variable is its value: one layer of quotes is removed, and a `~` at its beginning is expanded. So a
file comes back as it was unless its text is enclosed in quotes or begins with the `~` of a home that
is known. -/
theorem file_passes_through_variable (programs : Programs) (reading : Instruction) (machine : Machine)
    {source : Token} {name content : Text} (reads : reading.operation = .read source (some name))
    (referable : Token.HasShape ⟨.variable, '$' :: name⟩)
    (readable : machine.files.textOf (machine.session.resolvePath source) = .ok content)
    (absolute : ∀ home ∈ machine.session.home, Path.isAbsolute home = true) :
    let ran := (execute programs reading).run machine
    let after := ran.2
    let reference : Token := ⟨.variable, '$' :: name⟩
    let value := machine.session.expandHome (Text.unquote content)
    let holdsValue : FileSystem → Path → Prop := fun changed path =>
      changed.contentOf path = .ok (Utf8.encode value) ∧
        (changed.contentOf path = machine.files.contentOf (machine.session.resolvePath source) ↔
          ¬ Text.IsWrapped content ∧ (machine.session.home = none ∨ content.head? ≠ some '~'))
    (machine.Takes [10] → ran.1 = .ok ()) ∧
    after.session = machine.session.setVariable name content ∧ after.files = machine.files ∧
    (∀ echoing : Instruction, echoing.operation = .echo [reference] →
      (execute programs echoing).Does after [] (Utf8.encode content ++ [10] ++ [10]) (.ok ())
        after.files) ∧
    ∀ (storing : Instruction) (destination : Token),
      let path := after.session.resolvePath destination
      after.files.IsWritable path →
      (storing.operation = .write destination reference →
        ∃ changed, (execute programs storing).Does after [.write path] [10] (.ok ()) changed ∧
          holdsValue changed path) ∧
      (storing.operation = .append destination reference →
        (∀ entry, after.files.status path ≠ .ok entry) →
        ∃ changed, (execute programs storing).Does after [.append path] [10] (.ok ()) changed ∧
          holdsValue changed path) := by
  intro ran after reference value holdsValue
  obtain ⟨session_eq, files_eq, succeeds⟩ := @execute_read programs _ _ _ _ _ reads readable
  have bound : after.session.lookup ('$' :: name) = content := by
    rw [session_eq]
    exact Session.lookup_set_variable _ _ referable
  have stored : after.session.resolve reference = value := by
    rw [Session.resolve, Session.denotation, bound, session_eq]
    rfl
  have original := FileSystem.text_of_eq_ok_iff.mp readable
  have holds : ∀ {changed : FileSystem} {path : Path} {mode : Mode},
      changed.fileAt? path = some (Utf8.encode value, mode) → holdsValue changed path := by
    intro changed path mode file
    have held := FileSystem.content_of_of_file_at? file
    refine ⟨held, ?_⟩
    rw [held, original, Except.ok.injEq, Utf8.encode_inj]
    exact Session.expand_home_unquote_eq_self_iff absolute
  refine ⟨succeeds, session_eq, files_eq, ?_, ?_⟩
  · intro echoing echoes
    rw [← bound]
    exact echo_reference_does echoes after
  · intro storing destination path writable
    constructor
    · intro writes
      obtain ⟨changed, mode, accepted, file⟩ := writable.exists_write (Utf8.encode value)
      rw [← stored] at accepted
      have performs := perform_write programs destination reference
      rw [← writes] at performs
      exact ⟨changed, execute_storing_does performs accepted, holds file⟩
    · intro appends absent
      obtain ⟨changed, mode, accepted, file⟩ := writable.exists_append (Utf8.encode value)
      rw [FileSystem.file_at?_eq_none absent] at file
      rw [← stored] at accepted
      have performs := perform_append programs destination reference
      rw [← appends] at performs
      exact ⟨changed, execute_storing_does performs accepted, holds file⟩

/-- The quotes of a text in a file are taken for those of a value when the text is written back. -/
theorem file_passes_through_variable_without_quotes :
    let files : FileSystem := .ofList
      [([⟨['f'], by decide⟩], .file (Utf8.encode ['"', 'a', '"']) .created)]
    let machine := Machine.start (.start ['/'] (some ['/', 'h'])) files none
    let reading : Instruction := ⟨1, .read ⟨.word, ['f']⟩ (some ['v']), []⟩
    let after := ((execute onceSuccessful reading).run machine).2
    let storing : Instruction := ⟨2, .write ⟨.word, ['g']⟩ ⟨.variable, ['$', 'v']⟩, []⟩
    machine.files.textOf ['/', 'f'] = .ok ['"', 'a', '"'] ∧
      Token.HasShape ⟨.variable, ['$', 'v']⟩ ∧ after.files.IsWritable ['/', 'g'] ∧
      ∃ changed,
        (execute onceSuccessful storing).Does after [.write ['/', 'g']] [10] (.ok ()) changed ∧
        changed.contentOf ['/', 'g'] = .ok (Utf8.encode ['a']) := by
  intro files machine reading after storing
  have readable : machine.files.textOf ['/', 'f'] = .ok ['"', 'a', '"'] := by cbv
  have letter : Text.isAlphanumeric 'v' = true := Text.is_alphanumeric_of_ascii (by decide)
  have accepted : isNameChar 'v' = true := by simp [isNameChar, letter]
  have shape : Token.HasShape ⟨.variable, ['$', 'v']⟩ :=
    .reference ['v'] (by decide) (by simpa using accepted)
  have writable : files.IsWritable ['/', 'g'] := by
    have opened : files.create ['/', 'g'] =
        .ok (files.insert [⟨['g'], by decide⟩] (.file [] .created)) := by cbv
    have free : files.status ['/', 'g'] = .error .noSuchEntry := by cbv
    refine ⟨⟨_, opened⟩, ?_⟩
    rintro ⟨location, device, found⟩
    cases free.symm.trans found
  have absolute : ∀ home ∈ machine.session.home, Path.isAbsolute home = true := by decide
  obtain ⟨-, session_eq, files_eq, -, stores⟩ :=
    file_passes_through_variable onceSuccessful reading machine rfl shape readable absolute
  have here : after.files.IsWritable (after.session.resolvePath ⟨.word, ['g']⟩) := by
    rw [files_eq, session_eq]
    exact writable
  obtain ⟨changed, does, held, -⟩ := (stores storing ⟨.word, ['g']⟩ here).1 rfl
  rw [session_eq] at does held
  refine ⟨readable, shape, ?_, changed, does, held⟩
  rw [files_eq]
  exact writable

end Engine

end LineScript
