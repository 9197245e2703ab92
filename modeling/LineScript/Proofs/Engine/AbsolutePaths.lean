import Mathlib
import LineScript.Proofs.Engine.History
import LineScript.Proofs.Search.Selection

/-!
# Absolute paths

A run that starts in an absolute working directory stays in one, and every path that it hands to the
host is absolute. So a run does not depend on the working directory of the host, whatever a variable, a
quoted text or the home directory makes of a path.
-/

namespace LineScript

set_option autoImplicit false

variable {α β : Type}

/-- A path that does not depend on a working directory. -/
abbrev Path.IsAbsolute (path : Path) : Prop := Path.isAbsolute path = true

/-- All paths that a request names are absolute. -/
def Call.IsAbsolute (call : Call) : Prop := ∀ path ∈ call.paths, path.IsAbsolute

/-- Nothing on a machine depends on the working directory of the host: its own working directory is
absolute, and so are the paths of all requests it has made. -/
structure Machine.IsAbsolute (machine : Machine) : Prop where
  directory : machine.session.directory.IsAbsolute
  calls : ∀ call ∈ machine.transcript.calls, call.IsAbsolute

namespace Machine.IsAbsolute

variable {machine : Machine}

theorem record_event (absolute : machine.IsAbsolute) (event : Event) :
    (machine.record (.event event)).IsAbsolute where
  directory := absolute.directory
  calls := by
    rw [record, Transcript.calls_append]
    simpa [Transcript.calls] using absolute.calls

theorem record_output (absolute : machine.IsAbsolute) (bytes : List UInt8) :
    (machine.record (.output bytes)).IsAbsolute where
  directory := absolute.directory
  calls := by
    rw [record, Transcript.calls_append]
    simpa [Transcript.calls] using absolute.calls

theorem record_call (absolute : machine.IsAbsolute) {call : Call}
    (asked : call.IsAbsolute) :
    (machine.record (.call call)).IsAbsolute where
  directory := absolute.directory
  calls := by
    rw [record, Transcript.calls_append]
    simp only [Transcript.calls, List.mem_append, List.filterMap_cons, List.filterMap_nil,
      List.mem_singleton]
    rintro other (earlier | rfl)
    · exact absolute.calls other earlier
    · exact asked

theorem with_room (absolute : machine.IsAbsolute) (room : Option Nat) :
    { machine with room := room }.IsAbsolute := ⟨absolute.directory, absolute.calls⟩

theorem with_files (absolute : machine.IsAbsolute) (files : FileSystem) :
    { machine with files := files }.IsAbsolute := ⟨absolute.directory, absolute.calls⟩

end Machine.IsAbsolute

/-- An action that keeps a machine absolute, and whose answer satisfies `post` if it has one. -/
def Action.KeepsAbsolute (action : Action α) (post : α → Prop) : Prop :=
  ∀ machine : Machine, machine.IsAbsolute → (action.run machine).2.IsAbsolute ∧
    ∀ answer, (action.run machine).1 = .ok answer → post answer

namespace Action.KeepsAbsolute

/-- Nothing is asked of an answer. -/
abbrev any : α → Prop := fun _ => True

/-! ## Closure -/

theorem pure {post : α → Prop} {answer : α} (satisfied : post answer) :
    KeepsAbsolute (Pure.pure answer) post := by
  intro machine absolute
  refine ⟨absolute, ?_⟩
  rintro _ ⟨⟩
  exact satisfied

theorem throw {post : α → Prop} (fault : RunFault) :
    KeepsAbsolute (MonadExcept.throw fault : Action α) post :=
  fun _ absolute => ⟨absolute, nofun⟩

theorem bind {first : Action α} {next : α → Action β} {middle : α → Prop} {post : β → Prop}
    (keeps : KeepsAbsolute first middle)
    (nextKeeps : ∀ answer, middle answer → KeepsAbsolute (next answer) post) :
    KeepsAbsolute (first >>= next) post := by
  intro machine absolute
  obtain ⟨kept, satisfied⟩ := keeps machine absolute
  rw [run_bind]
  generalize first.run machine = ran at kept satisfied ⊢
  rcases ran with ⟨fault | answer, after⟩
  · exact ⟨kept, nofun⟩
  · exact nextKeeps answer (satisfied answer rfl) after kept

theorem for_m {entries : List α} {body : α → Action Unit}
    (keeps : ∀ entry ∈ entries, KeepsAbsolute (body entry) any) :
    KeepsAbsolute (entries.forM body) any := by
  induction entries with
  | nil => exact pure trivial
  | cons entry rest ih =>
    rw [List.forall_mem_cons] at keeps
    exact bind keeps.1 fun _ _ => ih keeps.2

theorem of_reads {action : Action α} {answer : Machine → α} {post : α → Prop}
    (reads : ∀ machine, action.run machine = (.ok (answer machine), machine))
    (satisfied : ∀ machine : Machine, machine.IsAbsolute → post (answer machine)) :
    KeepsAbsolute action post := by
  intro machine absolute
  rw [reads]
  refine ⟨absolute, ?_⟩
  rintro _ ⟨⟩
  exact satisfied machine absolute

theorem session : KeepsAbsolute Action.session fun session => session.directory.IsAbsolute :=
  of_reads run_session fun _ absolute => absolute.directory

theorem files : KeepsAbsolute Action.files any := of_reads run_files fun _ _ => trivial

theorem launches : KeepsAbsolute Action.launches any := of_reads run_launches fun _ _ => trivial

theorem update_session {update : Session → Session}
    (keeps : ∀ session : Session, session.directory.IsAbsolute →
      (update session).directory.IsAbsolute) :
    KeepsAbsolute (Action.updateSession update) any := by
  intro machine absolute
  rw [run_update_session]
  exact ⟨⟨keeps _ absolute.directory, absolute.calls⟩, fun _ _ => trivial⟩

theorem report (event : Event) : KeepsAbsolute (Action.report event) any :=
  fun _ absolute => ⟨absolute.record_event event, fun _ _ => trivial⟩

theorem write_bytes (bytes : List UInt8) : KeepsAbsolute (Action.writeBytes bytes) any := by
  intro machine absolute
  rw [run_write_bytes]
  cases machine.room with
  | none => exact ⟨absolute.record_output bytes, fun _ _ => trivial⟩
  | some room => exact ⟨(absolute.record_output _).with_room _, fun _ _ => trivial⟩

theorem write (text : Text) : KeepsAbsolute (Action.write text) any := write_bytes _

section Requests

variable {call : Call} (asked : call.IsAbsolute)

include asked

theorem note : KeepsAbsolute (modify (·.record (.call call)) : Action Unit) any :=
  fun _ absolute => ⟨absolute.record_call asked, fun _ _ => trivial⟩

theorem ask (question : FileSystem → α) : KeepsAbsolute (Action.ask call question) any :=
  fun _ absolute => ⟨absolute.record_call asked, fun _ _ => trivial⟩

theorem demand {question : FileSystem → Except HostError α} (blame : HostError → RunFault)
    {post : α → Prop} (satisfied : ∀ files answer, question files = .ok answer → post answer) :
    KeepsAbsolute (Action.demand (Action.ask call question) blame) post := by
  intro machine absolute
  rw [run_demand]
  refine ⟨absolute.record_call asked, ?_⟩
  intro answer answered
  cases found : question machine.files with
  | error error =>
    rw [found] at answered
    cases answered
  | ok given =>
    rw [found] at answered
    cases answered
    exact satisfied _ _ found

theorem attempt (change : FileSystem → Except HostError α × FileSystem)
    (blame : HostError → RunFault) : KeepsAbsolute (Action.attempt call change blame) any := by
  intro machine absolute
  rw [run_attempt]
  exact ⟨(absolute.record_call asked).with_files _, fun _ _ => trivial⟩

theorem change (update : FileSystem → Except HostError FileSystem) (blame : HostError → RunFault) :
    KeepsAbsolute (Action.change call update blame) any := attempt asked _ blame

end Requests

end Action.KeepsAbsolute

namespace Engine

open LineScript.Action

/-! ## Operations -/

theorem run_report_search (steps : List SearchStep) (machine : Machine) :
    ((reportSearch steps).run machine).1 = .ok () := by
  rw [reportSearch]
  induction steps generalizing machine with
  | nil => rfl
  | cons step rest ih =>
    rw [run_for_m_cons]
    cases step with
    | listing | unlistable | hit => exact ih _

end Engine

end LineScript
