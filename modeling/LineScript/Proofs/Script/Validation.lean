import LineScript.Engine
import Mathlib.Data.List.Forall2

/-!
# Validation of a whole script

A script is read line by line, and nothing of it is executed unless every significant line makes an
instruction. The main statement says which lines count, when a source is accepted, which instructions
it then has, which fault it is rejected with, and that a rejected source leaves the machine as it was
while an accepted one is never stopped by a fault of the text.
-/

namespace LineScript.Script

set_option autoImplicit false

section Reading

variable {ε α β : Type} {read : α → Except ε β}

theorem map_m_eq_ok_iff {items : List α} {results : List β} :
    items.mapM read = .ok results ↔
      List.Forall₂ (fun item result => read item = .ok result) items results := by
  induction items generalizing results with
  | nil =>
      rw [List.mapM_nil, List.forall₂_nil_left_iff]
      exact ⟨fun same => (Except.ok.inj same).symm, fun same => congrArg Except.ok same.symm⟩
  | cons item others ih =>
      rw [List.mapM_cons, List.forall₂_cons_left_iff]
      constructor
      · intro success
        cases first : read item with
        | error fault =>
            rw [first] at success
            cases success
        | ok result =>
            cases rest : others.mapM read with
            | error fault =>
                rw [first, rest] at success
                cases success
            | ok later =>
                rw [first, rest] at success
                cases success
                exact ⟨result, later, rfl, ih.mp rest, rfl⟩
      · rintro ⟨result, later, first, rest, rfl⟩
        rw [first, ih.mpr rest]
        rfl

theorem exists_map_m_eq_ok_iff {items : List α} :
    (∃ results, items.mapM read = .ok results) ↔ ∀ item ∈ items, ∃ result, read item = .ok result := by
  simp only [map_m_eq_ok_iff]
  constructor
  · rintro ⟨results, related⟩ item member
    induction related with
    | nil => cases member
    | cons first rest ih =>
        rcases List.mem_cons.mp member with rfl | member
        · exact ⟨_, first⟩
        · exact ih member
  · intro readable
    induction items with
    | nil => exact ⟨[], .nil⟩
    | cons item others ih =>
        obtain ⟨result, first⟩ := readable item (by simp)
        obtain ⟨results, rest⟩ := ih fun other member => readable other (by simp [member])
        exact ⟨result :: results, .cons first rest⟩

/-- Reading fails at the first item that is not read, whatever comes after it. -/
theorem map_m_eq_error_iff {items : List α} {fault : ε} :
    items.mapM read = .error fault ↔
      ∃ earlier item later, items = earlier ++ item :: later ∧
        (∀ before ∈ earlier, ∃ result, read before = .ok result) ∧ read item = .error fault := by
  constructor
  · intro failure
    induction items with
    | nil =>
        rw [List.mapM_nil] at failure
        cases failure
    | cons item others ih =>
        rw [List.mapM_cons] at failure
        cases first : read item with
        | error found =>
            rw [first] at failure
            cases failure
            exact ⟨[], item, others, rfl, by simp, first⟩
        | ok result =>
            cases rest : others.mapM read with
            | ok results =>
                rw [first, rest] at failure
                cases failure
            | error found =>
                rw [first, rest] at failure
                cases failure
                obtain ⟨earlier, bad, later, rfl, readable, refused⟩ := ih rest
                refine ⟨item :: earlier, bad, later, rfl, ?_, refused⟩
                exact List.forall_mem_cons.mpr ⟨⟨result, first⟩, readable⟩
  · rintro ⟨earlier, item, later, rfl, readable, refused⟩
    obtain ⟨results, success⟩ := exists_map_m_eq_ok_iff.mpr readable
    rw [List.mapM_append, List.mapM_cons, success, refused]
    rfl

end Reading

theorem is_significant_iff {line : Text} :
    isSignificant line = true ↔ Text.trim line ≠ [] ∧ (Text.trim line).head? ≠ some '#' := by
  unfold isSignificant
  cases Text.trim line with
  | nil => simp
  | cons first rest => simp

/-- The significant lines are those that are not blank and do not begin with `#`, each with its number
counted from one over all lines. -/
theorem mem_significant_lines {source line : Text} {number : Nat} :
    (line, number) ∈ significantLines source ↔
      0 < number ∧ (Text.lines source)[number - 1]? = some line ∧ Text.trim line ≠ [] ∧
        (Text.trim line).head? ≠ some '#' := by
  rw [significantLines, List.mem_filter, numberedLines, List.mk_mem_zipIdx_iff_le_and_getElem?_sub,
    is_significant_iff, and_assoc]
  exact Iff.rfl

theorem significant_lines_increasing (source : Text) :
    ((significantLines source).map (·.2)).Pairwise (· < ·) := by
  have selected : ((significantLines source).map (·.2)).Sublist ((numberedLines source).map (·.2)) :=
    List.filter_sublist.map _
  apply List.Pairwise.sublist selected
  rw [numberedLines, List.zipIdx_map_snd]
  exact List.pairwise_lt_range'

theorem line_of_of_tokens {source : Text} {number : Nat} {tokens : List Token}
    {instruction : Instruction} (built : Instruction.ofTokens source number tokens = .ok instruction) :
    instruction.line = number := by
  unfold Instruction.ofTokens at built
  split at built
  · cases built
  · split at built
    · cases built
      rfl
    · cases built
    · cases built

theorem line_of_of_tokens_fault {source : Text} {number : Nat} {tokens : List Token} {fault : Fault}
    (rejected : Instruction.ofTokens source number tokens = .error fault) : fault.line = number := by
  unfold Instruction.ofTokens at rejected
  split at rejected
  · cases rejected
    rfl
  · split at rejected
    · cases rejected
    · cases rejected
      rfl
    · cases rejected
      rfl

theorem parse_eq_ok_iff {source : Text} {instructions : List Instruction} :
    parse source = .ok instructions ↔
      List.Forall₂ (fun numbered instruction =>
        parseLine source numbered.1 numbered.2 = .ok instruction)
        (significantLines source) instructions :=
  map_m_eq_ok_iff

/-- The instructions of an accepted source carry the numbers of its significant lines. -/
theorem lines_of_parse {source : Text} {instructions : List Instruction}
    (accepted : parse source = .ok instructions) :
    instructions.map (·.line) = (significantLines source).map (·.2) := by
  have related := parse_eq_ok_iff.mp accepted
  clear accepted
  generalize significantLines source = numbered at related ⊢
  induction related with
  | nil => rfl
  | cons built _ ih =>
      rw [List.map_cons, List.map_cons, ih, line_of_of_tokens built]

/-- A run of a rejected source does nothing but report the fault of its text. -/
theorem run_source_of_rejected {source : Text} {fault : Fault} (rejected : parse source = .error fault)
    (programs : Programs) (machine : Machine) :
    Engine.runSource programs source machine = (.error (.script fault), machine) := by
  rw [Engine.runSource, rejected]

theorem run_source_of_accepted {source : Text} {instructions : List Instruction}
    (accepted : parse source = .ok instructions) (programs : Programs) (machine : Machine)
    {fault : LineScript.Fault}
    (stopped : (Engine.runSource programs source machine).1 = .error fault) :
    fault.isScriptFault = false := by
  rw [Engine.runSource, accepted] at stopped
  change ((Engine.executeAll programs instructions).run machine).1.mapError LineScript.Fault.run = _
    at stopped
  cases result : ((Engine.executeAll programs instructions).run machine).1 with
  | ok value =>
      rw [result] at stopped
      cases stopped
  | error found =>
      rw [result] at stopped
      cases stopped
      rfl

/-- Whole-script validation. The significant lines are the lines that are neither blank nor comments,
with their numbers. A source is accepted exactly when each of them makes an instruction, and then has
these instructions in the order of the lines, each with the number of its line. Otherwise the fault is
that of the first line that makes none, whatever follows it. Only a rejected source gives a fault of
the text, and its run leaves the machine as it was. -/
theorem source_validated_before_execution (source : Text) :
    (∀ line number, (line, number) ∈ significantLines source ↔
      0 < number ∧ (Text.lines source)[number - 1]? = some line ∧ Text.trim line ≠ [] ∧
        (Text.trim line).head? ≠ some '#') ∧
    ((∃ instructions, parse source = .ok instructions) ↔
      ∀ numbered ∈ significantLines source, ∃ instruction,
        Instruction.ofTokens source numbered.2 (Token.scan (Text.trim numbered.1)) =
          .ok instruction) ∧
    (∀ instructions, parse source = .ok instructions →
      List.Forall₂ (fun numbered instruction =>
        Instruction.ofTokens source numbered.2 (Token.scan (Text.trim numbered.1)) =
          .ok instruction ∧ instruction.line = numbered.2)
        (significantLines source) instructions ∧
      (instructions.map (·.line)).Pairwise (· < ·)) ∧
    (∀ fault, parse source = .error fault ↔
      ∃ earlier line number later, significantLines source = earlier ++ (line, number) :: later ∧
        (∀ before ∈ earlier, ∃ instruction,
          Instruction.ofTokens source before.2 (Token.scan (Text.trim before.1)) =
            .ok instruction) ∧
        Instruction.ofTokens source number (Token.scan (Text.trim line)) = .error fault ∧
        fault.line = number) ∧
    (∀ programs machine,
      (∀ fault, (Engine.runSource programs source machine).1 = .error fault →
        (fault.isScriptFault = true ↔ ∃ found, parse source = .error found)) ∧
      ∀ found, parse source = .error found →
        Engine.runSource programs source machine = (.error (.script found), machine)) := by
  refine ⟨fun line number => mem_significant_lines, exists_map_m_eq_ok_iff, ?_, ?_, ?_⟩
  · intro instructions accepted
    constructor
    · refine (parse_eq_ok_iff.mp accepted).imp ?_
      intro numbered instruction built
      exact ⟨built, line_of_of_tokens built⟩
    · rw [lines_of_parse accepted]
      exact significant_lines_increasing source
  · intro fault
    constructor
    · intro rejected
      obtain ⟨earlier, ⟨line, number⟩, later, split, readable, refused⟩ :=
        map_m_eq_error_iff.mp rejected
      exact ⟨earlier, line, number, later, split, readable, refused, line_of_of_tokens_fault refused⟩
    · rintro ⟨earlier, line, number, later, split, readable, refused, -⟩
      exact map_m_eq_error_iff.mpr ⟨earlier, (line, number), later, split, readable, refused⟩
  · intro programs machine
    constructor
    · intro fault stopped
      cases verdict : parse source with
      | error found =>
          rw [run_source_of_rejected verdict] at stopped
          cases stopped
          exact ⟨fun _ => ⟨found, rfl⟩, fun _ => rfl⟩
      | ok instructions =>
          rw [run_source_of_accepted verdict programs machine stopped]
          constructor
          · intro impossible
            cases impossible
          · rintro ⟨found, impossible⟩
            cases impossible
    · intro found rejected
      exact run_source_of_rejected rejected programs machine

end LineScript.Script
