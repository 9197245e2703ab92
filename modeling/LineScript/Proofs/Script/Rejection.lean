import Mathlib
import LineScript.Proofs.Script.Validation
import LineScript.Proofs.Text.Runs

/-!
# Where a rejected script is wrong

A rejected source is rejected at one of its significant lines, whose number the fault carries. The
excerpt around that line marks it and no other line. A fault shows the excerpt unless it says that a
parameter has to be a group: such a fault carries its line number and shows nothing.
-/

namespace LineScript

set_option autoImplicit false

namespace Text

theorem join_eq_intercalate (separator : Text) (texts : List Text) :
    join separator texts = separator.intercalate texts := by
  induction texts with
  | nil => rfl
  | cons text others ih =>
      cases others with
      | nil => simp [join]
      | cons next others =>
          rw [join, ih, List.intercalate_cons_cons, List.append_assoc]

end Text

namespace Script

/-! ## The lines of an excerpt -/

/-- The lines of a text that begin with the mark. -/
def markedLines (text : Text) : List Text :=
  (text.splitOn '\n').filter (Text.beginsWith (· == '>'))

theorem line_feed_not_mem_excerpt_entry {text : Text} (unbroken : '\n' ∉ text) (marked number : Nat) :
    '\n' ∉ excerptEntry marked text number := by
  have digits : '\n' ∉ Text.decimal number := by
    intro member
    exact absurd (Nat.isDigit_of_mem_toDigits (by decide) (by decide) member) (by decide)
  rw [excerptEntry]
  split <;> simp [Text.padLeft, digits, unbroken]

theorem begins_with_excerpt_entry (marked : Nat) (text : Text) (number : Nat) :
    Text.beginsWith (· == '>') (excerptEntry marked text number) = (number == marked) := by
  rw [excerptEntry]
  split <;> simp_all [Text.begins_with_cons]

/-- The lines that the excerpt around a line shows, with their numbers. -/
def shownLines (source : Text) (line : Nat) : List (Text × Nat) :=
  (numberedLines source).filter fun (_, number) =>
    max (line - excerptRadius) 1 ≤ number && number ≤ line + excerptRadius

theorem excerpt_eq_intercalate (source : Text) (line : Nat) :
    excerpt source line = ['\n'].intercalate
      ((shownLines source line).map fun (text, number) => excerptEntry line text number) :=
  Text.join_eq_intercalate _ _

theorem split_on_excerpt {source text : Text} {line : Nat}
    (shown : (text, line) ∈ shownLines source line) :
    (excerpt source line).splitOn '\n' =
      (shownLines source line).map fun (text, number) => excerptEntry line text number := by
  rw [excerpt_eq_intercalate]
  apply List.splitOn_intercalate
  · intro entry member
    obtain ⟨⟨other, number⟩, inside, rfl⟩ := List.mem_map.mp member
    apply line_feed_not_mem_excerpt_entry
    have numbered := (List.mem_filter.mp inside).1
    exact Text.not_mem_of_mem_lines (List.fst_mem_of_mem_zipIdx numbered)
  · intro empty
    rw [List.map_eq_nil_iff.mp empty] at shown
    cases shown

theorem numbered_lines_increasing (source : Text) :
    ((numberedLines source).map (·.2)).Pairwise (· < ·) := by
  rw [numberedLines, List.zipIdx_map_snd]
  exact List.pairwise_lt_range'

theorem filter_number_shown_lines {source text : Text} {line : Nat}
    (shown : (text, line) ∈ shownLines source line) :
    (shownLines source line).filter (fun entry => entry.2 == line) = [(text, line)] := by
  have increasing : ((shownLines source line).map (·.2)).Pairwise (· < ·) :=
    (numbered_lines_increasing source).sublist (List.filter_sublist.map _)
  obtain ⟨earlier, later, split⟩ := List.append_of_mem shown
  rw [split, List.map_append, List.map_cons, List.pairwise_append, List.pairwise_cons] at increasing
  obtain ⟨-, ⟨after, -⟩, before⟩ := increasing
  have noneBefore : earlier.filter (fun entry => entry.2 == line) = [] := by
    rw [List.filter_eq_nil_iff]
    intro entry member
    have smaller := before _ (List.mem_map_of_mem member) line (List.mem_cons_self ..)
    simpa using Nat.ne_of_lt smaller
  have noneAfter : later.filter (fun entry => entry.2 == line) = [] := by
    rw [List.filter_eq_nil_iff]
    intro entry member
    have larger := after _ (List.mem_map_of_mem member)
    simpa using Nat.ne_of_gt larger
  rw [split, List.filter_append, noneBefore, List.nil_append, List.filter_cons, noneAfter,
    if_pos (beq_self_eq_true line)]

theorem filter_marked_shown_lines (source : Text) (line : Nat) :
    ((shownLines source line).map fun (text, number) => excerptEntry line text number).filter
        (Text.beginsWith (· == '>')) =
      ((shownLines source line).filter (·.2 == line)).map
        fun (text, number) => excerptEntry line text number := by
  have marks : Text.beginsWith (· == '>') ∘ (fun entry => excerptEntry line entry.1 entry.2) =
      fun entry : Text × Nat => entry.2 == line := by
    funext entry
    exact begins_with_excerpt_entry line entry.1 entry.2
  rw [List.filter_map, marks]

theorem mem_shown_lines_self {source text : Text} {line : Nat}
    (numbered : (text, line) ∈ numberedLines source) : (text, line) ∈ shownLines source line := by
  have positive : 1 ≤ line := List.le_snd_of_mem_zipIdx numbered
  have low : max (line - excerptRadius) 1 ≤ line := by omega
  rw [shownLines, List.mem_filter]
  exact ⟨numbered, by simpa using low⟩

theorem marked_lines_excerpt {source text : Text} {line : Nat}
    (numbered : (text, line) ∈ numberedLines source) :
    markedLines (excerpt source line) = [excerptEntry line text line] := by
  have shown := mem_shown_lines_self numbered
  rw [markedLines, split_on_excerpt shown, filter_marked_shown_lines, filter_number_shown_lines shown,
    List.map_singleton]

/-! ## Faults -/

/-- A fault shows the excerpt around its line, unless it says that a group is expected. -/
theorem excerpt?_of_of_tokens {source : Text} {number : Nat} {tokens : List Token} {fault : Fault}
    (rejected : Instruction.ofTokens source number tokens = .error fault) :
    fault.excerpt? = some (excerpt source number) ∨
      ∃ keyword found, fault = .groupExpected keyword number found := by
  unfold Instruction.ofTokens at rejected
  split at rejected
  · cases rejected
    exact .inl rfl
  · split at rejected
    · cases rejected
    · cases rejected
      exact .inl rfl
    · cases rejected
      exact .inr ⟨_, _, rfl⟩

/-- A rejected source is rejected at a significant line of it. The fault carries the number of that
line, counted from one. The excerpt around it marks this line and no other, and the fault shows that
excerpt unless it says that a group is expected; then it shows none. -/
theorem rejection_shows_line_unless_group_expected (source : Text) (fault : Fault)
    (rejected : parse source = .error fault) :
    ∃ line, (line, fault.line) ∈ significantLines source ∧ 0 < fault.line ∧
      (Text.lines source)[fault.line - 1]? = some line ∧
      markedLines (excerpt source fault.line) = [excerptEntry fault.line line fault.line] ∧
      (fault.excerpt? = some (excerpt source fault.line) ↔
        ∀ keyword found, fault ≠ .groupExpected keyword fault.line found) ∧
      (fault.excerpt? = none ↔ ∃ keyword found, fault = .groupExpected keyword fault.line found) := by
  obtain ⟨earlier, ⟨line, number⟩, later, split, -, refused⟩ := map_m_eq_error_iff.mp rejected
  have significant : (line, number) ∈ significantLines source := by
    rw [split]
    exact List.mem_append_right _ (List.mem_cons_self ..)
  obtain ⟨positive, standing, -⟩ := mem_significant_lines.mp significant
  have numbered : (line, number) ∈ numberedLines source := (List.mem_filter.mp significant).1
  have number_eq := line_of_of_tokens_fault refused
  rw [number_eq]
  refine ⟨line, significant, positive, standing, marked_lines_excerpt numbered, ?_⟩
  rcases excerpt?_of_of_tokens refused with shows | ⟨keyword, found, rfl⟩
  · have other : ∀ keyword found, fault ≠ .groupExpected keyword number found := by
      rintro keyword found rfl
      cases shows
    rw [shows]
    simpa using other
  · simp [Fault.excerpt?]

/-- The second line of a script lacks a parameter, and the excerpt around it marks it alone. -/
theorem rejection_shows_second_line :
    let source := ['c', 'd', ' ', '/', '\n', 'c', 'p', ' ', 'a', '\n']
    let fault := Fault.missingParameters .copy 2 2 1 (excerpt source 2)
    parse source = .error fault ∧ fault.excerpt? = some (excerpt source 2) ∧
      ∃ line, (Text.lines source)[1]? = some line ∧
        markedLines (excerpt source 2) = [excerptEntry 2 line 2] := by
  intro source fault
  have rejected : parse source = .error fault := by cbv
  obtain ⟨line, -, -, standing, marked, -⟩ :=
    rejection_shows_line_unless_group_expected source fault rejected
  exact ⟨rejected, rfl, line, standing, marked⟩

/-- A parameter that has to be a group and is none stops the reading of its line without an excerpt. -/
theorem rejection_without_excerpt :
    ¬ ∀ source fault, parse source = .error fault →
      fault.excerpt? = some (excerpt source fault.line) := by
  intro shows
  have rejected : parse ['f', 'i', 'n', 'd', ' ', 'a', ' ', 'b'] =
      .error (.groupExpected .find 1 ['b']) := by cbv
  cases shows _ _ rejected

end Script

end LineScript
