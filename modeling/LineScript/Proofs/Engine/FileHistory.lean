import LineScript.Proofs.Engine.Sequences
import LineScript.Proofs.Engine.Storage

/-!
# The history of a file

A file on which only writes and appends work, between instructions that change no file, holds what
their history says: the data of the last write, or what was there at first, and after it the data of
all later appends. Each of the data is what its token stood for at its moment, also if it came from
the file itself.
-/

namespace LineScript

set_option autoImplicit false

namespace FileSystem

variable {files after : FileSystem} {path : Path} {text : Text}

/-- What there is to read at a path is this text, and what is stored there stays: the path leads to a
file with the text or, if that is empty, to nothing. -/
def HoldsText (files : FileSystem) (path : Path) (text : Text) : Prop :=
  ¬ files.LeadsToDevice path ∧ ((files.fileAt? path).map (·.1)).getD [] = Utf8.encode text

theorem holds_text_of_file_at? {mode : Mode}
    (file : files.fileAt? path = some (Utf8.encode text, mode)) : files.HoldsText path text := by
  refine ⟨?_, by rw [file]; rfl⟩
  rintro ⟨location, device, found⟩
  rw [fileAt?, found] at file
  cases file

theorem holds_text_of_nothing (nothing : ∀ entry, files.status path ≠ .ok entry) :
    files.HoldsText path [] := by
  refine ⟨?_, ?_⟩
  · rintro ⟨location, device, found⟩
    exact nothing _ found
  · rw [file_at?_eq_none nothing]
    rfl

theorem text_of_of_holds_text (holds : files.HoldsText path text)
    (file : (files.fileAt? path).isSome = true) : files.textOf path = .ok text := by
  obtain ⟨⟨content, mode⟩, file⟩ := Option.isSome_iff_exists.mp file
  obtain ⟨-, held⟩ := holds
  rw [file] at held
  rw [text_of_eq_ok_iff, ← held]
  exact content_of_of_file_at? file

theorem holds_text_of_write (holds : files.HoldsText path text) {data : Text}
    (stored : files.write path (Utf8.encode data) = .ok after) :
    after.HoldsText path data ∧ (after.fileAt? path).isSome = true := by
  have file := file_at?_of_store stored holds.1
  exact ⟨holds_text_of_file_at? file, by rw [file]; rfl⟩

theorem holds_text_of_append (holds : files.HoldsText path text) {data : Text}
    (stored : files.append path (Utf8.encode data) = .ok after) :
    after.HoldsText path (text ++ data) ∧ (after.fileAt? path).isSome = true := by
  have file := file_at?_of_store stored holds.1
  rw [holds.2, ← Utf8.encode_append] at file
  exact ⟨holds_text_of_file_at? file, by rw [file]; rfl⟩

end FileSystem

namespace Engine

open LineScript.Action

variable {programs : Programs} {path : Path} {step : Step}

/-! ## One step -/

namespace Step

/-- The text that a step puts in the place of what a file held. -/
def written? (step : Step) : Option Text :=
  match step.operation with
  | .write _ data => some (step.machine.session.resolve data)
  | _ => none

def appended (step : Step) : Text :=
  match step.operation with
  | .append _ data => step.machine.session.resolve data
  | _ => []

def stores (step : Step) : Bool :=
  match step.operation with
  | .write _ _ | .append _ _ => true
  | _ => false

/-- The step stores a text at the path, with success, or it is one of those that change no file. -/
def IsAbout (programs : Programs) (path : Path) (step : Step) : Prop :=
  match step.operation with
  | .write token _ | .append token _ =>
    step.machine.session.resolvePath token = path ∧ step.result programs = .ok ()
  | .set _ _ | .echo _ | .find _ _ | .changeDirectory _ | .read _ _ => True
  | _ => False

/-- What a file holds after a step if it held `before`. -/
def content (step : Step) (before : Text) : Text := step.written?.getD before ++ step.appended

end Step

theorem files_of_execute_storing {instruction : Instruction} {machine after : Machine}
    {token data : Token} {event : Path → Event} {call : Path → Call} {attempt : Attempt}
    {update : Path → Text → FileSystem → Except HostError FileSystem}
    (stores : perform programs instruction.operation = storing token data event call update attempt)
    (ran : (execute programs instruction).run machine = (.ok (), after)) :
    update (machine.session.resolvePath token) (machine.session.resolve data) machine.files =
      .ok after.files := by
  have told := machine.advances_record_events [.executing instruction.line instruction.display]
  rw [run_execute, stores, run_bind_eq_ok_iff] at ran
  obtain ⟨_, middle, performed, wrote⟩ := ran
  have stored := files_of_storing performed
  rw [announced, told.session_eq, told.files_eq] at stored
  rw [(after_write wrote).2.2.1]
  exact stored

theorem Step.run_of_result (succeeds : step.result programs = .ok ()) :
    (execute programs step.instruction).run step.machine = (.ok (), step.after programs) :=
  Prod.ext succeeds rfl

/-- A step on the path changes what the path holds as the step says, and the file stays there. -/
theorem holds_text_of_step {before : Text} (about : step.IsAbout programs path)
    (holds : step.machine.files.HoldsText path before) :
    (step.after programs).files.HoldsText path (step.content before) ∧
      (step.stores = true ∨ (step.machine.files.fileAt? path).isSome = true →
        ((step.after programs).files.fileAt? path).isSome = true) := by
  obtain ⟨machine, ⟨line, operation, parameters⟩⟩ := step
  cases operation with
  | write token data =>
    obtain ⟨rfl, succeeds⟩ := about
    have stored := files_of_execute_storing (perform_write programs token data)
      (Step.run_of_result succeeds)
    obtain ⟨held, file⟩ := FileSystem.holds_text_of_write holds stored
    exact ⟨by simpa [Step.content, Step.written?, Step.appended, Step.operation] using held,
      fun _ => file⟩
  | append token data =>
    obtain ⟨rfl, succeeds⟩ := about
    have stored := files_of_execute_storing (perform_append programs token data)
      (Step.run_of_result succeeds)
    obtain ⟨held, file⟩ := FileSystem.holds_text_of_append holds stored
    exact ⟨held, fun _ => file⟩
  | set | echo | find | changeDirectory | read =>
    rw [Step.after, files_eq_of_execute rfl Prod.mk.eta.symm]
    exact ⟨by simpa [Step.content, Step.written?, Step.appended, Step.operation] using holds,
      fun present => present.resolve_left (by simp [Step.stores, Step.operation])⟩
  | execute | createFile | makeDirectory | remove | copy | move | each => exact about.elim

/-! ## Sequences of steps -/

/-- What a sequence of steps makes of a text: the data of its last write, or the text itself if nothing
is written, followed by the data of all later appends. -/
inductive ContentHistory (initial : Text) : List Step → Text → Prop
  | unwritten {all : List Step} (unwritten : ∀ step ∈ all, step.written? = none) :
    ContentHistory initial all (initial ++ all.flatMap Step.appended)
  | written (earlier : List Step) {last : Step} {later : List Step} {data : Text}
    (written : last.written? = some data) (unwritten : ∀ step ∈ later, step.written? = none) :
    ContentHistory initial (earlier ++ last :: later) (data ++ later.flatMap Step.appended)

theorem Step.appended_of_written {data : Text} (written : step.written? = some data) :
    step.appended = [] := by
  unfold Step.written? at written
  unfold Step.appended
  split at written <;> simp_all

theorem ContentHistory.cons {initial content : Text} {later : List Step}
    (history : ContentHistory (step.content initial) later content) :
    ContentHistory initial (step :: later) content := by
  cases history with
  | unwritten unwritten =>
    cases written : step.written? with
    | none =>
      have all : ∀ other ∈ step :: later, other.written? = none :=
        List.forall_mem_cons.mpr ⟨written, unwritten⟩
      rw [Step.content, written, List.append_assoc, ← List.flatMap_cons]
      exact .unwritten all
    | some data =>
      rw [Step.content, written, Step.appended_of_written written, List.append_nil]
      exact .written [] written unwritten
  | written earlier written unwritten =>
    rw [← List.cons_append]
    exact .written (step :: earlier) written unwritten

theorem ContentHistory.eq_of_unwritten {initial content : Text} {all : List Step}
    (history : ContentHistory initial all content)
    (unwritten : ∀ step ∈ all, step.written? = none) :
    content = initial ++ all.flatMap Step.appended := by
  cases history with
  | unwritten _ => rfl
  | written earlier written =>
    have absent := unwritten _ (List.mem_append_right earlier List.mem_cons_self)
    cases absent.symm.trans written

theorem holds_text_machine_after {instructions : List Instruction} {machine : Machine} {initial : Text}
    (about : ∀ step ∈ steps programs instructions machine, step.IsAbout programs path)
    (holds : machine.files.HoldsText path initial) :
    ∃ content, ContentHistory initial (steps programs instructions machine) content ∧
      (machineAfter programs instructions machine).files.HoldsText path content ∧
      ((∃ step ∈ steps programs instructions machine, step.stores = true) ∨
          (machine.files.fileAt? path).isSome = true →
        ((machineAfter programs instructions machine).files.fileAt? path).isSome = true) := by
  induction instructions generalizing machine initial with
  | nil =>
    refine ⟨initial, ?_, holds, fun present => present.resolve_left (by simp [steps])⟩
    have history : ContentHistory initial [] (initial ++ [].flatMap Step.appended) := .unwritten (by simp)
    rwa [List.flatMap_nil, List.append_nil] at history
  | cons instruction later ih =>
    rw [steps, List.forall_mem_cons] at about
    obtain ⟨held, stays⟩ := holds_text_of_step about.1 holds
    obtain ⟨content, history, reached, present⟩ := ih about.2 held
    refine ⟨content, .cons history, reached, fun found => present ?_⟩
    rw [steps, List.exists_mem_cons_iff] at found
    obtain (stores | laterStores) | file := found
    · exact .inr (stays (.inl stores))
    · exact .inl laterStores
    · exact .inr (stays (.inr file))

/-- A file that is read into a variable after a sequence of writes and appends gives the data of the
last write, or what was there at first, followed by the data of all later appends, each as it was at
its moment. -/
theorem read_gives_content_history (programs : Programs) (instructions : List Instruction)
    (machine : Machine) (reading : Instruction) {path : Path} {source : Token} {name initial : Text}
    (start : (∃ mode, machine.files.fileAt? path = some (Utf8.encode initial, mode)) ∨
      initial = [] ∧ (∀ entry, machine.files.status path ≠ .ok entry) ∧
        ∃ step ∈ steps programs instructions machine, step.stores = true)
    (about : ∀ step ∈ steps programs instructions machine, step.IsAbout programs path)
    (reads : reading.operation = .read source (some name))
    (resolved : (machineAfter programs instructions machine).session.resolvePath source = path) :
    let before := machineAfter programs instructions machine
    let ran := (execute programs reading).run before
    ∃ content, ContentHistory initial (steps programs instructions machine) content ∧
      ran.2.session = before.session.setVariable name content ∧ ran.2.files = before.files ∧
      (before.Takes [10] → ran.1 = .ok ()) := by
  intro before ran
  have holds : machine.files.HoldsText path initial := by
    obtain ⟨mode, file⟩ | ⟨rfl, nothing, -⟩ := start
    · exact FileSystem.holds_text_of_file_at? file
    · exact FileSystem.holds_text_of_nothing nothing
  have present : (∃ step ∈ steps programs instructions machine, step.stores = true) ∨
      (machine.files.fileAt? path).isSome = true := by
    obtain ⟨mode, file⟩ | ⟨-, -, stores⟩ := start
    · exact .inr (by rw [file]; rfl)
    · exact .inl stores
  obtain ⟨content, history, held, stays⟩ := holds_text_machine_after about holds
  have readable : before.files.textOf (before.session.resolvePath source) = .ok content := by
    rw [resolved]
    exact FileSystem.text_of_of_holds_text held (stays present)
  exact ⟨content, history, execute_read reads readable⟩

/-- A file is made by an append, and what is read from it is appended to it again. -/
theorem read_gives_content_history_of_file_fed_back :
    let machine := Machine.start (.start ['/'] none) (.ofList []) none
    let reading : Instruction := ⟨2, .read ⟨.word, ['p']⟩ (some ['v']), []⟩
    let instructions : List Instruction :=
      [⟨1, .append ⟨.word, ['p']⟩ ⟨.word, ['a']⟩, []⟩, reading,
        ⟨3, .append ⟨.word, ['p']⟩ ⟨.variable, ['$', 'v']⟩, []⟩]
    (∀ entry, machine.files.status ['/', 'p'] ≠ .ok entry) ∧
      (∀ step ∈ steps onceSuccessful instructions machine,
        step.IsAbout onceSuccessful ['/', 'p']) ∧
      ((execute onceSuccessful reading).run
          (machineAfter onceSuccessful instructions machine)).2.session =
        (machineAfter onceSuccessful instructions machine).session.setVariable ['v'] ['a', 'a'] := by
  intro machine reading instructions
  have absent : machine.files.status ['/', 'p'] = .error .noSuchEntry := by cbv
  have nothing : ∀ entry, machine.files.status ['/', 'p'] ≠ .ok entry := by
    simp [absent]
  have about : ∀ step ∈ steps onceSuccessful instructions machine,
      step.IsAbout onceSuccessful ['/', 'p'] := by
    simp only [instructions, steps, List.forall_mem_cons]
    exact ⟨⟨by cbv, by cbv⟩, trivial, ⟨by cbv, by cbv⟩, by simp⟩
  have unwritten : ∀ step ∈ steps onceSuccessful instructions machine, step.written? = none := by
    simp only [instructions, steps, List.forall_mem_cons]
    exact ⟨rfl, rfl, rfl, by simp⟩
  have appended : (steps onceSuccessful instructions machine).flatMap Step.appended = ['a', 'a'] := by
    cbv
  have stores : ∃ step ∈ steps onceSuccessful instructions machine, step.stores = true :=
    ⟨_, List.mem_cons_self, rfl⟩
  have resolved : (machineAfter onceSuccessful instructions machine).session.resolvePath
      ⟨.word, ['p']⟩ = ['/', 'p'] := by cbv
  obtain ⟨content, history, session_eq, -⟩ := read_gives_content_history onceSuccessful instructions
    machine reading (.inr ⟨rfl, nothing, stores⟩) about rfl resolved
  have content_eq := history.eq_of_unwritten unwritten
  rw [appended, List.nil_append] at content_eq
  subst content_eq
  exact ⟨nothing, about, session_eq⟩

/-- What has never been there cannot be read. -/
theorem read_of_nothing_binds_nothing :
    let machine := Machine.start (.start ['/'] none) (.ofList []) none
    let reading : Instruction := ⟨1, .read ⟨.word, ['p']⟩ (some ['v']), []⟩
    let ran := (execute onceSuccessful reading).run machine
    (∀ entry, machine.files.status ['/', 'p'] ≠ .ok entry) ∧
      (∃ store, machine.files.create ['/', 'p'] = .ok store) ∧
      ContentHistory [] (steps onceSuccessful [] machine) [] ∧
      machine.session.resolvePath ⟨.word, ['p']⟩ = ['/', 'p'] ∧
      ran.1 = .error (.notFound ['/', 'p']) ∧ ran.2.session.valueOf? ['v'] = none := by
  intro machine reading ran
  have absent : machine.files.status ['/', 'p'] = .error .noSuchEntry := by cbv
  have nothing : ∀ entry, machine.files.status ['/', 'p'] ≠ .ok entry := by
    simp [absent]
  have history : ContentHistory [] [] ([] ++ [].flatMap Step.appended) := .unwritten (by simp)
  have refused : ((execute onceSuccessful reading).run machine).1 =
      .error (.notFound ['/', 'p']) := by cbv
  have unbound : ((execute onceSuccessful reading).run machine).2.session.valueOf? ['v'] = none := by
    cbv
  exact ⟨nothing, ⟨_, by cbv⟩, history, by cbv, refused, unbound⟩

end Engine

end LineScript
