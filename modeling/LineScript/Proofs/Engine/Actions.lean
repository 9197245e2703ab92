import LineScript.Machine

/-!
# Runs of actions

What the primitive actions do to a machine. Only a write looks at the room of the output, so that the
machine with another room is the machine to compare a run with.
-/

namespace LineScript

set_option autoImplicit false

namespace Machine

/-- The machine with another limit of the output. -/
def withRoom (machine : Machine) (room : Option Nat) : Machine := { machine with room := room }

@[simp] theorem with_room_self (machine : Machine) : machine.withRoom machine.room = machine := rfl

@[simp] theorem files_with_room (machine : Machine) (room : Option Nat) :
    (machine.withRoom room).files = machine.files := rfl

@[simp] theorem output_with_room (machine : Machine) (room : Option Nat) :
    (machine.withRoom room).output = machine.output := rfl

@[simp] theorem session_record (machine : Machine) (entry : Entry) :
    (machine.record entry).session = machine.session := rfl

@[simp] theorem files_record (machine : Machine) (entry : Entry) :
    (machine.record entry).files = machine.files := rfl

@[simp] theorem output_record_event (machine : Machine) (event : Event) :
    (machine.record (.event event)).output = machine.output := by
  simp [record, output, Transcript.output]

@[simp] theorem output_record_call (machine : Machine) (call : Call) :
    (machine.record (.call call)).output = machine.output := by
  simp [record, output, Transcript.output]

@[simp] theorem output_record_output (machine : Machine) (bytes : List UInt8) :
    (machine.record (.output bytes)).output = machine.output ++ bytes := by
  simp [record, output, Transcript.output]

@[simp] theorem launches_record_event (machine : Machine) (event : Event) :
    (machine.record (.event event)).transcript.launches = machine.transcript.launches := by
  simp [record, Transcript.launches, Transcript.calls]

@[simp] theorem launches_record_output (machine : Machine) (bytes : List UInt8) :
    (machine.record (.output bytes)).transcript.launches = machine.transcript.launches := by
  simp [record, Transcript.launches, Transcript.calls]

@[simp] theorem launches_record_launch (machine : Machine) (launch : Launch) :
    (machine.record (.call (.launch launch))).transcript.launches =
      machine.transcript.launches + 1 := by
  simp [record, Transcript.launches, Transcript.calls, Call.isLaunch]

@[simp] theorem calls_record_event (machine : Machine) (event : Event) :
    (machine.record (.event event)).transcript.calls = machine.transcript.calls := by
  simp [record, Transcript.calls]

@[simp] theorem calls_record_output (machine : Machine) (bytes : List UInt8) :
    (machine.record (.output bytes)).transcript.calls = machine.transcript.calls := by
  simp [record, Transcript.calls]

@[simp] theorem calls_record_call (machine : Machine) (call : Call) :
    (machine.record (.call call)).transcript.calls = machine.transcript.calls ++ [call] := by
  simp [record, Transcript.calls]

/-- The machine after several events. -/
def recordEvents (machine : Machine) (events : List Event) : Machine :=
  events.foldl (fun machine event => machine.record (.event event)) machine

@[simp] theorem session_record_events (machine : Machine) (events : List Event) :
    (machine.recordEvents events).session = machine.session := by
  induction events generalizing machine with
  | nil => rfl
  | cons event rest ih => exact ih (machine.record (.event event))

@[simp] theorem files_record_events (machine : Machine) (events : List Event) :
    (machine.recordEvents events).files = machine.files := by
  induction events generalizing machine with
  | nil => rfl
  | cons event rest ih => exact ih (machine.record (.event event))

@[simp] theorem room_record_events (machine : Machine) (events : List Event) :
    (machine.recordEvents events).room = machine.room := by
  induction events generalizing machine with
  | nil => rfl
  | cons event rest ih => exact ih (machine.record (.event event))

@[simp] theorem calls_record_events (machine : Machine) (events : List Event) :
    (machine.recordEvents events).transcript.calls = machine.transcript.calls := by
  induction events generalizing machine with
  | nil => rfl
  | cons event rest ih => exact (ih (machine.record (.event event))).trans (by simp)

@[simp] theorem output_record_events (machine : Machine) (events : List Event) :
    (machine.recordEvents events).output = machine.output := by
  induction events generalizing machine with
  | nil => rfl
  | cons event rest ih => exact (ih (machine.record (.event event))).trans (by simp)

@[simp] theorem launches_record_events (machine : Machine) (events : List Event) :
    (machine.recordEvents events).transcript.launches = machine.transcript.launches := by
  induction events generalizing machine with
  | nil => rfl
  | cons event rest ih => exact (ih (machine.record (.event event))).trans (by simp)

end Machine

/-- Whether an error is the refusal of the output does not depend on the type of the answers. -/
theorem error_ne_output_full {α : Type} (β : Type) {fault : RunFault}
    (other : (.error fault : Except RunFault α) ≠ .error .outputFull) :
    (.error fault : Except RunFault β) ≠ .error .outputFull := by
  intro same
  injection same with same
  rw [same] at other
  exact other rfl

namespace Action

variable {α β : Type}

theorem run_bind (first : Action α) (next : α → Action β) (machine : Machine) :
    (first >>= next).run machine =
      match first.run machine with
      | (.ok answer, after) => (next answer).run after
      | (.error fault, after) => (.error fault, after) := by
  simp only [ExceptT.run, bind, ExceptT.bind, ExceptT.mk, StateT.bind]
  rcases (first machine : Except RunFault α × Machine) with ⟨_ | _, after⟩ <;> rfl

theorem run_bind_eq_ok_iff {first : Action α} {next : α → Action β} {machine after : Machine}
    {answer : β} :
    (first >>= next).run machine = (.ok answer, after) ↔
      ∃ found middle, first.run machine = (.ok found, middle) ∧
        (next found).run middle = (.ok answer, after) := by
  rw [run_bind]
  rcases first.run machine with ⟨fault | found, middle⟩
  · constructor
    · intro impossible
      cases impossible
    · rintro ⟨_, _, impossible, -⟩
      cases impossible
  · constructor
    · exact fun ran => ⟨found, middle, rfl, ran⟩
    · rintro ⟨_, _, same, ran⟩
      cases same
      exact ran

theorem run_for_m_cons (entry : α) (rest : List α) (body : α → Action Unit) (machine : Machine) :
    ((entry :: rest).forM body).run machine =
      match (body entry).run machine with
      | (.ok _, after) => (rest.forM body).run after
      | (.error fault, after) => (.error fault, after) := by
  change (body entry >>= fun _ => rest.forM body).run machine = _
  rw [run_bind]
  rcases (body entry).run machine with ⟨fault | answer, after⟩ <;> rfl

theorem run_for_m_append (first second : List α) (body : α → Action Unit) (machine : Machine) :
    ((first ++ second).forM body).run machine =
      match (first.forM body).run machine with
      | (.ok _, after) => (second.forM body).run after
      | (.error fault, after) => (.error fault, after) := by
  induction first generalizing machine with
  | nil => rfl
  | cons entry rest ih =>
    rw [List.cons_append, run_for_m_cons, run_for_m_cons]
    rcases (body entry).run machine with ⟨fault | answer, after⟩
    · rfl
    · exact ih after

theorem run_pure (answer : α) (machine : Machine) :
    (pure answer : Action α).run machine = (.ok answer, machine) := rfl

theorem run_throw (fault : RunFault) (machine : Machine) :
    (throw fault : Action α).run machine = (.error fault, machine) := rfl

theorem run_session (machine : Machine) :
    Action.session.run machine = (.ok machine.session, machine) := rfl

theorem run_files (machine : Machine) :
    Action.files.run machine = (.ok machine.files, machine) := rfl

theorem run_launches (machine : Machine) :
    Action.launches.run machine = (.ok machine.transcript.launches, machine) := rfl

theorem run_update_session (update : Session → Session) (machine : Machine) :
    (Action.updateSession update).run machine =
      (.ok (), { machine with session := update machine.session }) := rfl

theorem run_report (event : Event) (machine : Machine) :
    (Action.report event).run machine = (.ok (), machine.record (.event event)) := rfl

theorem run_ask (call : Call) (question : FileSystem → α) (machine : Machine) :
    (Action.ask call question).run machine =
      (.ok (question machine.files), machine.record (.call call)) := rfl

theorem run_demand (call : Call) (question : FileSystem → Except HostError α)
    (blame : HostError → RunFault) (machine : Machine) :
    (Action.demand (Action.ask call question) blame).run machine =
      ((question machine.files).mapError blame, machine.record (.call call)) := by
  rw [Action.demand, run_bind, run_ask]
  dsimp only
  cases question machine.files <;> rfl

theorem run_demand_eq_ok_iff {call : Call} {question : FileSystem → Except HostError α}
    {blame : HostError → RunFault} {machine after : Machine} {answer : α} :
    (Action.demand (Action.ask call question) blame).run machine = (.ok answer, after) ↔
      question machine.files = .ok answer ∧ machine.record (.call call) = after := by
  rw [run_demand, Prod.mk.injEq]
  cases question machine.files with
  | ok found =>
    constructor
    · rintro ⟨same, asked⟩
      cases same
      exact ⟨rfl, asked⟩
    · rintro ⟨same, asked⟩
      cases same
      exact ⟨rfl, asked⟩
  | error error =>
    constructor
    · rintro ⟨impossible, -⟩
      cases impossible
    · rintro ⟨impossible, -⟩
      cases impossible

theorem run_attempt (call : Call) (change : FileSystem → Except HostError α × FileSystem)
    (blame : HostError → RunFault) (machine : Machine) :
    (Action.attempt call change blame).run machine =
      ((change machine.files).1.mapError blame,
        { machine.record (.call call) with files := (change machine.files).2 }) := by
  have asked : (modify (·.record (.call call)) : Action Unit).run machine =
      (.ok (), machine.record (.call call)) := rfl
  have found : (get : Action Machine).run (machine.record (.call call)) =
      (.ok (machine.record (.call call)), machine.record (.call call)) := rfl
  rw [Action.attempt, run_bind, asked]
  dsimp only
  rw [run_bind, found]
  dsimp only
  rw [Machine.files_record]
  rcases change machine.files with ⟨error | answer, files⟩ <;> rfl

theorem run_change (call : Call) (update : FileSystem → Except HostError FileSystem)
    (blame : HostError → RunFault) (machine : Machine) :
    (Action.change call update blame).run machine =
      match update machine.files with
      | .ok files => (.ok (), { machine.record (.call call) with files := files })
      | .error error => (.error (blame error), machine.record (.call call)) := by
  rw [Action.change, run_attempt]
  cases update machine.files <;> rfl

theorem run_write_bytes (bytes : List UInt8) (machine : Machine) :
    (Action.writeBytes bytes).run machine =
      match machine.room with
      | none => (.ok (), machine.record (.output bytes))
      | some room =>
        (if room < bytes.length then .error .outputFull else .ok (),
          { machine.record (.output (bytes.take room)) with room := some (room - bytes.length) }) := by
  have split : (Action.writeBytes bytes).run machine =
      (match machine.room with
        | none => modify (·.record (.output bytes))
        | some room => do
          modify fun machine =>
            { machine.record (.output (bytes.take room)) with room := some (room - bytes.length) }
          if room < bytes.length then throw .outputFull : Action Unit).run machine := rfl
  rw [split]
  cases machine.room with
  | none => rfl
  | some room =>
    by_cases full : room < bytes.length
    · simp only [full, if_true]
      rfl
    · simp only [full, if_false]
      rfl

end Action

end LineScript
