import Mathlib
import LineScript.Proofs.Engine.Numbering
import LineScript.Proofs.Engine.Runs
import LineScript.Proofs.Script.Validation
import LineScript.Proofs.Text.Lines

/-!
# Putting scripts one after another

Two sources with a line feed between them are read as the one and then the other, the lines of the
second being counted on. The main statement says this of the instructions and of the fault that is
found first, and that a run of the whole is a run of the first source that, if it succeeds, a run of
the second follows. Nothing passes from the one run to the other but the machine.
-/

namespace LineScript

set_option autoImplicit false

/-- The instruction on a line `lines` further down. -/
def Instruction.shift (lines : Nat) (instruction : Instruction) : Instruction :=
  { instruction with line := instruction.line + lines }

namespace Script

namespace Fault

/-- The fault without the lines around it. -/
def withoutExcerpt : Fault → Fault
  | .unknownOperation name line _ => .unknownOperation name line []
  | .missingParameters keyword line required supplied _ =>
    .missingParameters keyword line required supplied []
  | .groupExpected keyword line found => .groupExpected keyword line found

/-- The fault on a line `lines` further down. -/
def shift (lines : Nat) : Fault → Fault
  | .unknownOperation name line excerpt => .unknownOperation name (line + lines) excerpt
  | .missingParameters keyword line required supplied excerpt =>
    .missingParameters keyword (line + lines) required supplied excerpt
  | .groupExpected keyword line found => .groupExpected keyword (line + lines) found

theorem without_excerpt_shift (lines : Nat) (fault : Fault) :
    (fault.shift lines).withoutExcerpt = fault.withoutExcerpt.shift lines := by
  cases fault <;> rfl

end Fault

/-! ## Reading lines apart from their source -/

/-- Readings that agree item by item, up to a change of faults and results, agree as a whole. -/
theorem map_m_congr {ε δ α β γ : Type} (items : List α) {read : α → Except ε β}
    {other : α → Except δ γ} (fault : ε → δ) (result : β → γ)
    (agrees : ∀ item, other item = ((read item).map result).mapError fault) :
    items.mapM other = ((items.mapM read).map (List.map result)).mapError fault := by
  induction items with
  | nil => rfl
  | cons item others ih =>
      rw [List.mapM_cons, List.mapM_cons, agrees, ih]
      cases read item with
      | error found => rfl
      | ok first => cases others.mapM read <;> rfl

/-- What the tokens of a numbered line make. The excerpt of a fault, which is all that depends on the
source, is left out. -/
def readTokens (tokens : List Token) (number : Nat) : Except Fault Instruction :=
  (Instruction.ofTokens [] number tokens).mapError Fault.withoutExcerpt

theorem of_tokens_without_excerpt (source : Text) (number : Nat) (tokens : List Token) :
    (Instruction.ofTokens source number tokens).mapError Fault.withoutExcerpt =
      readTokens tokens number := by
  unfold readTokens Instruction.ofTokens
  split
  · rfl
  · split <;> rfl

theorem read_tokens_shift (tokens : List Token) (number lines : Nat) :
    readTokens tokens (number + lines) =
      ((readTokens tokens number).map (·.shift lines)).mapError (·.shift lines) := by
  unfold readTokens Instruction.ofTokens
  split
  · rfl
  · split <;> rfl

/-- What a trimmed, numbered line makes. -/
def readLine (numbered : Text × Nat) : Except Fault Instruction :=
  readTokens (Token.scan numbered.1) numbered.2

/-- Whether a line without white space at its ends has to make an instruction. -/
def speaks : Text → Bool
  | [] => false
  | first :: _ => first != '#'

/-- The significant ones of some lines, trimmed and with their numbers, the first line having number
`first`. -/
def statements (lines : List Text) (first : Nat) : List (Text × Nat) :=
  ((lines.map Text.trim).zipIdx first).filter fun (line, _) => speaks line

theorem statements_append (lines others : List Text) (first : Nat) :
    statements (lines ++ others) first =
      statements lines first ++ statements others (first + lines.length) := by
  rw [statements, List.map_append, List.zipIdx_append, List.filter_append, List.length_map]
  rfl

theorem statements_shift (lines : List Text) (first count : Nat) :
    statements lines (count + first) =
      (statements lines first).map fun (line, number) => (line, number + count) := by
  unfold statements
  rw [← List.map_snd_add_zipIdx_eq_zipIdx, List.filter_map]
  rfl

theorem statements_ended {before after : List Text} (ended : Text.Ended before after) (first : Nat) :
    statements after first = statements before first := by
  cases ended with
  | same same => rw [same]
  | blank blank =>
      rw [blank, statements_append]
      exact List.append_nil _
  | cut earlier last before_eq after_eq =>
      have trimmed : Text.trim (last ++ ['\r']) = Text.trim last :=
        Text.trim_append_white_space last rfl
      rw [before_eq, after_eq, statements_append, statements_append]
      unfold statements
      rw [List.map_singleton, List.map_singleton, trimmed]

theorem significant_lines_trimmed (source : Text) :
    (significantLines source).map (fun (line, number) => (Text.trim line, number)) =
      statements (Text.lines source) 1 := by
  rw [statements, List.zipIdx_map, List.filter_map]
  rfl

theorem parse_without_excerpt (source : Text) :
    (parse source).mapError Fault.withoutExcerpt =
      (statements (Text.lines source) 1).mapM readLine := by
  have agrees : ∀ numbered : Text × Nat,
      readLine (Text.trim numbered.1, numbered.2) =
        ((parseLine source numbered.1 numbered.2).map id).mapError Fault.withoutExcerpt := by
    intro numbered
    rw [Except.map_id]
    exact (of_tokens_without_excerpt source numbered.2 _).symm
  have whole := map_m_congr (significantLines source) Fault.withoutExcerpt id agrees
  rw [List.map_id_fun, Except.map_id] at whole
  rw [← significant_lines_trimmed, List.mapM_map]
  exact whole.symm

theorem parse_append_line_feed (first second : Text) :
    (parse (first ++ '\n' :: second)).mapError Fault.withoutExcerpt = (do
      let earlier ← (parse first).mapError Fault.withoutExcerpt
      let later ← (((parse second).mapError Fault.withoutExcerpt).map
        (List.map (·.shift (first.count '\n' + 1)))).mapError (·.shift (first.count '\n' + 1))
      return earlier ++ later) := by
  have agrees : ∀ numbered : Text × Nat,
      readLine (numbered.1, numbered.2 + (first.count '\n' + 1)) =
        ((readLine numbered).map (·.shift (first.count '\n' + 1))).mapError
          (·.shift (first.count '\n' + 1)) :=
    fun numbered => read_tokens_shift _ _ _
  have shifted := map_m_congr (statements (Text.lines second) 1) _ _ agrees
  rw [parse_without_excerpt, parse_without_excerpt, parse_without_excerpt, ← shifted,
    Text.lines_append_line_feed_append, statements_append, List.mapM_append,
    statements_ended (Text.lines_ended first), Text.length_lines_append_line_feed, Nat.add_comm 1,
    statements_shift, List.mapM_map]
  rfl

/-! ## Two sources, the first of which is accepted -/

section Seam

variable {first second : Text}

theorem parse_append_of_accepted {earlier later : List Instruction}
    (firstAccepted : parse first = .ok earlier) (secondAccepted : parse second = .ok later) :
    parse (first ++ '\n' :: second) =
      .ok (earlier ++ later.map (·.shift (first.count '\n' + 1))) := by
  have whole := parse_append_line_feed first second
  rw [firstAccepted, secondAccepted] at whole
  cases read : parse (first ++ '\n' :: second) with
  | error fault =>
      rw [read] at whole
      cases whole
  | ok instructions =>
      rw [read] at whole
      cases whole
      rfl

theorem exists_parse_append_of_rejected {fault : Fault}
    (rejected : (parse (first ++ '\n' :: second)).mapError Fault.withoutExcerpt = .error fault) :
    ∃ found, parse (first ++ '\n' :: second) = .error found ∧ found.withoutExcerpt = fault := by
  cases read : parse (first ++ '\n' :: second) with
  | error found =>
      rw [read] at rejected
      exact ⟨found, rfl, Except.error.inj rejected⟩
  | ok instructions =>
      rw [read] at rejected
      cases rejected

end Seam

end Script

namespace Engine

open LineScript.Action

/-- A run of a source and then, if it succeeds, of another one on the machine that it leaves. -/
def runInTurn (programs : Programs) (first second : Text) (machine : Machine) :
    Except Fault Unit × Machine :=
  match runSource programs first machine with
  | (.ok _, middle) => runSource programs second middle
  | (.error fault, after) => (.error fault, after)

theorem execute_all_shift_alike (programs : Programs) (lines : Nat) (instructions : List Instruction) :
    Alike (executeAll programs (instructions.map (·.shift lines))) (executeAll programs instructions) := by
  apply Alike.for_m
  rw [List.forall₂_map_left_iff]
  apply List.forall₂_same.mpr
  intro instruction _
  exact execute_alike programs rfl rfl

theorem run_source_append {first second : Text} {earlier later : List Instruction}
    (firstAccepted : Script.parse first = .ok earlier)
    (secondAccepted : Script.parse second = .ok later) (programs : Programs) (machine : Machine) :
    (runSource programs (first ++ '\n' :: second) machine).1 =
        (runInTurn programs first second machine).1 ∧
      Machine.SameButNumbers (runSource programs (first ++ '\n' :: second) machine).2
        (runInTurn programs first second machine).2 := by
  have accepted := Script.parse_append_of_accepted firstAccepted secondAccepted
  rw [runInTurn, run_source_of_parse accepted, run_source_of_parse firstAccepted,
    run_execute_all_append]
  rcases (executeAll programs earlier).run machine with ⟨fault | answer, middle⟩
  · exact ⟨rfl, .refl _⟩
  · dsimp only [Except.mapError]
    rw [run_source_of_parse secondAccepted]
    obtain ⟨result_eq, same⟩ := execute_all_shift_alike programs (first.count '\n' + 1) later middle
      middle (.refl middle)
    exact ⟨congrArg (Except.mapError Fault.run) result_eq, same⟩

end Engine

namespace Script

/-- Scripts compose. Two sources with a line feed between them have the instructions of the first and
then those of the second, whose lines are counted on; they are rejected with the fault of the first
source or, if that is accepted, with the fault of the second on its line counted on, the excerpts
aside. If both are accepted, a run of the whole ends as the run of the first source that is followed
by a run of the second if it succeeds, with the same output, session and file system. -/
theorem scripts_compose (first second : Text) :
    (∀ earlier later, parse first = .ok earlier → parse second = .ok later →
      parse (first ++ '\n' :: second) =
        .ok (earlier ++ later.map (·.shift (first.count '\n' + 1)))) ∧
    (∀ earlier fault, parse first = .ok earlier → parse second = .error fault →
      ∃ found, parse (first ++ '\n' :: second) = .error found ∧
        found.withoutExcerpt = (fault.shift (first.count '\n' + 1)).withoutExcerpt) ∧
    (∀ fault, parse first = .error fault →
      ∃ found, parse (first ++ '\n' :: second) = .error found ∧
        found.withoutExcerpt = fault.withoutExcerpt) ∧
    (∀ earlier later, parse first = .ok earlier → parse second = .ok later →
      ∀ programs machine,
        let whole := Engine.runSource programs (first ++ '\n' :: second) machine
        let parts := Engine.runInTurn programs first second machine
        whole.1 = parts.1 ∧ whole.2.output = parts.2.output ∧
          whole.2.session = parts.2.session ∧ whole.2.files = parts.2.files) := by
  refine ⟨?_, ?_, ?_, ?_⟩
  · intro earlier later firstAccepted secondAccepted
    exact parse_append_of_accepted firstAccepted secondAccepted
  · intro earlier fault firstAccepted secondRejected
    apply exists_parse_append_of_rejected
    rw [parse_append_line_feed, firstAccepted, secondRejected, Fault.without_excerpt_shift]
    rfl
  · intro fault firstRejected
    apply exists_parse_append_of_rejected
    rw [parse_append_line_feed, firstRejected]
    rfl
  · intro earlier later firstAccepted secondAccepted programs machine
    obtain ⟨result_eq, same⟩ :=
      Engine.run_source_append firstAccepted secondAccepted programs machine
    exact ⟨result_eq, same.output_eq, same.session_eq, same.files_eq⟩

/-- The second source begins with a line feed of its own, so the line it is read on moves by one only. -/
theorem scripts_compose_after_carriage_return :
    parse (['c', 'd', ' ', 'a', '\r'] ++ '\n' :: ['\n', 'c', 'd', ' ', 'b']) =
      .ok [⟨1, .changeDirectory ⟨.word, ['a']⟩, [⟨.word, ['a']⟩]⟩,
        ⟨3, .changeDirectory ⟨.word, ['b']⟩, [⟨.word, ['b']⟩]⟩] := by
  have first : parse ['c', 'd', ' ', 'a', '\r'] =
      .ok [⟨1, .changeDirectory ⟨.word, ['a']⟩, [⟨.word, ['a']⟩]⟩] := by
    cbv
  have second : parse ['\n', 'c', 'd', ' ', 'b'] =
      .ok [⟨2, .changeDirectory ⟨.word, ['b']⟩, [⟨.word, ['b']⟩]⟩] := by
    cbv
  exact (scripts_compose _ _).1 _ _ first second

end Script

end LineScript
