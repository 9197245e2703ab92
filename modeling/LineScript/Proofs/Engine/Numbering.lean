import LineScript.Proofs.Engine.Composition
import Mathlib.Data.List.Forall2

/-!
# Line numbers in a run

The number of an instruction's line appears in the event that reports the instruction, and nothing
else in a run depends on it. Runs of instructions that differ in their line numbers only are the same
but for those events.
-/

namespace LineScript

set_option autoImplicit false

variable {α β : Type}

/-- An entry of a transcript without the line number that it may show. -/
def Entry.unnumbered : Entry → Entry
  | .event (.executing _ display) => .event (.executing 0 display)
  | entry => entry

/-- Two machines that differ in the line numbers that were reported, if in anything. -/
structure Machine.SameButNumbers (first second : Machine) : Prop where
  session_eq : first.session = second.session
  files_eq : first.files = second.files
  room_eq : first.room = second.room
  transcript_eq : first.transcript.map Entry.unnumbered = second.transcript.map Entry.unnumbered

namespace Machine.SameButNumbers

variable {first second : Machine}

theorem refl (machine : Machine) : SameButNumbers machine machine := ⟨rfl, rfl, rfl, rfl⟩

theorem output_unnumbered (transcript : Transcript) :
    Transcript.output (transcript.map Entry.unnumbered) = transcript.output := by
  rw [Transcript.output, List.flatMap_map, Transcript.output]
  congr 1
  funext entry
  rcases entry with (_ | _) | _ | _ <;> rfl

theorem calls_unnumbered (transcript : Transcript) :
    Transcript.calls (transcript.map Entry.unnumbered) = transcript.calls := by
  rw [Transcript.calls, List.filterMap_map, Transcript.calls]
  congr 1
  funext entry
  rcases entry with (_ | _) | _ | _ <;> rfl

theorem output_eq (same : SameButNumbers first second) : first.output = second.output := by
  rw [Machine.output, ← output_unnumbered, same.transcript_eq, output_unnumbered, Machine.output]

theorem launches_eq (same : SameButNumbers first second) :
    first.transcript.launches = second.transcript.launches := by
  rw [Transcript.launches, ← calls_unnumbered, same.transcript_eq, calls_unnumbered,
    Transcript.launches]

theorem record (same : SameButNumbers first second) {entry other : Entry}
    (alike : entry.unnumbered = other.unnumbered) :
    SameButNumbers (first.record entry) (second.record other) := by
  refine ⟨same.session_eq, same.files_eq, same.room_eq, ?_⟩
  simp only [Machine.record, List.map_append, List.map_singleton, same.transcript_eq, alike]

end Machine.SameButNumbers

open Machine (SameButNumbers)

namespace Action

/-- Two actions that do the same but for the line numbers that they report. -/
def Alike (first second : Action α) : Prop :=
  ∀ machine other, SameButNumbers machine other →
    (first.run machine).1 = (second.run other).1 ∧
      SameButNumbers (first.run machine).2 (second.run other).2

theorem Alike.bind {first second : Action α} {next after : α → Action β} (alike : Alike first second)
    (nextAlike : ∀ answer, Alike (next answer) (after answer)) :
    Alike (first >>= next) (second >>= after) := by
  intro machine other same
  obtain ⟨result_eq, same⟩ := alike machine other same
  rw [run_bind, run_bind]
  generalize first.run machine = ran at result_eq same ⊢
  generalize second.run other = ranToo at result_eq same ⊢
  rcases ran with ⟨fault | answer, middle⟩
  · rcases ranToo with ⟨early | answer, middleToo⟩
    · injection result_eq with fault_eq
      exact ⟨congrArg Except.error fault_eq, same⟩
    · cases result_eq
  · rcases ranToo with ⟨early | answerToo, middleToo⟩
    · cases result_eq
    · injection result_eq with answer_eq
      subst answer_eq
      exact nextAlike answer middle middleToo same

theorem Alike.for_m {entries others : List α} {body : α → Action Unit}
    (alike : List.Forall₂ (fun entry other => Alike (body entry) (body other)) entries others) :
    Alike (entries.forM body) (others.forM body) := by
  induction alike with
  | nil => exact fun machine other same => ⟨rfl, same⟩
  | cons first _ ih => exact Alike.bind first fun _ => ih

theorem IsComposed.alike {changes updates : Prop} {action : Action α}
    (composed : IsComposed changes updates action) : Alike action action := by
  induction composed with
  | pure answer => exact fun machine other same => ⟨rfl, same⟩
  | throw fault => exact fun machine other same => ⟨rfl, same⟩
  | session => exact fun machine other same => ⟨congrArg Except.ok same.session_eq, same⟩
  | files => exact fun machine other same => ⟨congrArg Except.ok same.files_eq, same⟩
  | launches => exact fun machine other same => ⟨congrArg Except.ok same.launches_eq, same⟩
  | updateSession permitted update =>
    intro machine other same
    rw [run_update_session, run_update_session]
    exact ⟨rfl, congrArg update same.session_eq, same.files_eq, same.room_eq, same.transcript_eq⟩
  | report event => exact fun machine other same => ⟨rfl, same.record rfl⟩
  | note call => exact fun machine other same => ⟨rfl, same.record rfl⟩
  | writeBytes bytes =>
    intro machine other same
    rw [run_write_bytes, run_write_bytes, same.room_eq]
    cases other.room with
    | none => exact ⟨rfl, same.record rfl⟩
    | some room =>
      have recorded : SameButNumbers (machine.record (.output (bytes.take room)))
          (other.record (.output (bytes.take room))) := same.record rfl
      exact ⟨rfl, recorded.session_eq, recorded.files_eq, rfl, recorded.transcript_eq⟩
  | ask call question =>
    exact fun machine other same =>
      ⟨congrArg (fun files => Except.ok (question files)) same.files_eq, same.record rfl⟩
  | attempt permitted call change blame =>
    intro machine other same
    rw [run_attempt, run_attempt, same.files_eq]
    have recorded : SameButNumbers (machine.record (.call call)) (other.record (.call call)) :=
      same.record rfl
    exact ⟨rfl, recorded.session_eq, rfl, recorded.room_eq, recorded.transcript_eq⟩
  | bind _ _ ih nextIh => exact Alike.bind ih nextIh

end Action

namespace Engine

open LineScript.Action

/-- Instructions that differ in nothing but their line numbers are executed alike. -/
theorem execute_alike (programs : Programs) {first second : Instruction}
    (operation_eq : first.operation = second.operation)
    (parameters_eq : first.parameters = second.parameters) :
    Alike (execute programs first) (execute programs second) := by
  have reported : Alike (report (.executing first.line first.display))
      (report (.executing second.line second.display)) := by
    intro machine other same
    refine ⟨rfl, same.record ?_⟩
    simp only [Entry.unnumbered, Instruction.display, operation_eq, parameters_eq]
  apply Alike.bind reported
  intro _
  rw [operation_eq]
  apply Alike.bind (perform_is_composed programs second.operation).alike
  intro _
  exact (@IsComposed.write False False ['\n']).alike

end Engine

end LineScript
