import Mathlib
import LineScript.Proofs.Script.Decision
import LineScript.Proofs.Script.Validation
import LineScript.Proofs.Token.Separators

/-!
# The written form of a script

The written form of a list of instructions has one line for each: its keyword and the texts of its
tokens, with single blanks between. The main statement says that what was read from a source, once
written, is read again as the same operations with the same tokens, now on the lines one to `n`; so
writing is a normal form. It rests on what every instruction that was read has in common: its tokens
have their shapes, hold no line break, and make its operation.
-/

namespace LineScript

set_option autoImplicit false

namespace Token

theorem ends_before_of_not_word {token : Token} {rest : Text}
    (stop : Text.beginsWith isWordChar rest = false) : token.EndsBefore rest := by
  have stopName : Text.beginsWith isNameChar rest = false := by
    cases rest with
    | nil => rfl
    | cons c others => exact not_is_name_char_of_not_is_word_char stop
  unfold EndsBefore
  split
  · trivial
  · exact stopName
  · exact stopName
  · exact stop

theorem not_ends_with_white_space_of_spelled {run : Text} (mark : Text) (nonempty : run ≠ [])
    (spelled : ∀ c ∈ run, isWordChar c = true) :
    Text.endsWith Text.isWhiteSpace (mark ++ run) = false := by
  rw [Text.ends_with_append mark nonempty]
  apply Text.ends_with_eq_false
  intro c member
  cases blank : Text.isWhiteSpace c with
  | false => rfl
  | true =>
      have accepted := spelled c member
      rw [not_is_word_char_of_is_white_space blank] at accepted
      cases accepted

theorem HasShape.not_ends_with_white_space {token : Token} (shape : HasShape token) :
    Text.endsWith Text.isWhiteSpace token.text = false := by
  cases shape with
  | quoted inside unquoted =>
      change Text.endsWith Text.isWhiteSpace (('"' :: inside) ++ ['"']) = false
      rw [Text.ends_with_append _ (by simp)]
      rfl
  | reference name nonempty spelled =>
      exact not_ends_with_white_space_of_spelled ['$'] nonempty
        fun c member => is_word_char_of_is_name_char (spelled c member)
  | groupMark name nonempty spelled =>
      exact not_ends_with_white_space_of_spelled ['[', ']'] nonempty
        fun c member => is_word_char_of_is_name_char (spelled c member)
  | word text nonempty spelled => exact not_ends_with_white_space_of_spelled [] nonempty spelled

theorem shape_of_mem_scan {token : Token} {line : Text} (member : token ∈ scan line) :
    HasShape token ∧ ∀ c ∈ token.text, c ∈ line := by
  obtain ⟨layout, rfl, lexical⟩ := Layout.exists_is_lexical line
  rw [← Layout.tokens_eq_scan lexical] at member
  induction layout with
  | last gap => cases member
  | cons gap first others ih =>
      obtain ⟨-, shape, -, lexicalOthers⟩ := lexical
      rcases List.mem_cons.mp member with rfl | member
      · exact ⟨shape, fun c inside => by simp [Layout.text, inside]⟩
      · obtain ⟨shapeToken, inside⟩ := ih lexicalOthers member
        exact ⟨shapeToken, fun c found => by simp [Layout.text, inside c found]⟩

end Token

namespace Instruction

/-- What every instruction read from a line has in common: its tokens have their shapes and lie on one
line, and they make its operation. -/
structure IsReadable (instruction : Instruction) : Prop where
  shapes : ∀ token ∈ instruction.parameters, Token.HasShape token
  unbroken : ∀ token ∈ instruction.parameters, '\n' ∉ token.text
  fits : Operation.ofParameters instruction.operation.keyword instruction.parameters =
    .ok instruction.operation

theorem keyword_shape (keyword : Keyword) : Token.HasShape ⟨.word, keyword.name⟩ := by
  have spelled : keyword.name.all isWordChar = true := by cases keyword <;> rfl
  exact .word _ keyword.name_ne_nil (List.all_eq_true.mp spelled)

theorem fits_of_parse_line {source line : Text} {number : Nat} {instruction : Instruction}
    (built : Script.parseLine source line number = .ok instruction) :
    instruction.parameters = (Token.scan (Text.trim line)).tail ∧
      Operation.ofParameters instruction.operation.keyword instruction.parameters =
        .ok instruction.operation := by
  unfold Script.parseLine ofTokens at built
  split at built
  · cases built
  · split at built
    · rename_i operation fitting
      cases built
      dsimp only
      rw [Operation.keyword_of_of_parameters fitting]
      exact ⟨rfl, fitting⟩
    · cases built
    · cases built

theorem is_readable_of_parse_line {source line : Text} {number : Nat} {instruction : Instruction}
    (unbroken : '\n' ∉ line) (built : Script.parseLine source line number = .ok instruction) :
    instruction.IsReadable := by
  obtain ⟨parameters_eq, fits⟩ := fits_of_parse_line built
  have written : ∀ token ∈ instruction.parameters, token ∈ Token.scan (Text.trim line) := by
    rw [parameters_eq]
    exact fun token => List.mem_of_mem_tail
  refine ⟨?_, ?_, fits⟩
  · intro token member
    exact (Token.shape_of_mem_scan (written token member)).1
  · intro token member feed
    have found := (Token.shape_of_mem_scan (written token member)).2 _ feed
    exact unbroken (Text.mem_of_mem_trim found)

theorem scan_parameters {parameters : List Token} (shapes : ∀ token ∈ parameters, Token.HasShape token) :
    Token.scan (parameters.flatMap fun parameter => ' ' :: parameter.text) = parameters := by
  induction parameters with
  | nil => exact Token.scan_eq_nil rfl
  | cons parameter others ih =>
      rw [List.forall_mem_cons] at shapes
      have stop : Text.beginsWith isWordChar
          (others.flatMap fun parameter => ' ' :: parameter.text) = false := by
        cases others with
        | nil => rfl
        | cons next others => rfl
      have blank : Token.IsSeparator ' ' := Token.is_separator_of_is_white_space rfl
      rw [List.flatMap_cons, List.cons_append,
        Token.scan_congr (Token.next?_of_droppable (blank.droppable _)),
        Token.scan_token shapes.1 (Token.ends_before_of_not_word stop), ih shapes.2]

theorem scan_display {instruction : Instruction} (readable : instruction.IsReadable) :
    Token.scan instruction.display =
      ⟨.word, instruction.operation.keyword.name⟩ :: instruction.parameters := by
  have stop : Text.beginsWith isWordChar
      (instruction.parameters.flatMap fun parameter => ' ' :: parameter.text) = false := by
    cases instruction.parameters with
    | nil => rfl
    | cons next others => rfl
  have first := Token.scan_token (keyword_shape instruction.operation.keyword)
    (Token.ends_before_of_not_word stop)
  rw [display, first, scan_parameters readable.shapes]

theorem display_ne_nil (instruction : Instruction) : instruction.display ≠ [] := by
  rw [display]
  exact List.append_ne_nil_of_left_ne_nil (Keyword.name_ne_nil _) _

/-- The written form of an instruction ends with its keyword or with its last token. -/
theorem not_ends_with_white_space_display {instruction : Instruction}
    (readable : instruction.IsReadable) :
    Text.endsWith Text.isWhiteSpace instruction.display = false := by
  rw [display]
  rcases List.eq_nil_or_concat instruction.parameters with none | ⟨others, last, whole⟩
  · rw [none, List.flatMap_nil, List.append_nil]
    exact (keyword_shape _).not_ends_with_white_space
  · have shape : Token.HasShape last := readable.shapes last (by simp [whole])
    rw [whole, List.concat_eq_append, List.flatMap_append, List.flatMap_singleton,
      ← List.append_assoc, ← List.singleton_append, ← List.append_assoc,
      Text.ends_with_append _ shape.text_ne_nil]
    exact shape.not_ends_with_white_space

theorem unbroken_display {instruction : Instruction} (readable : instruction.IsReadable) :
    '\n' ∉ instruction.display := by
  have keyword : ∀ keyword : Keyword, '\n' ∉ keyword.name := by
    intro keyword
    cases keyword <;> decide
  rw [display, List.mem_append, List.mem_flatMap, not_or, not_exists]
  refine ⟨keyword _, ?_⟩
  rintro token ⟨member, feed⟩
  rcases List.mem_cons.mp feed with blank | feed
  · cases blank
  · exact readable.unbroken token member feed

theorem trim_display {instruction : Instruction} (readable : instruction.IsReadable) :
    Text.trim instruction.display = instruction.display := by
  refine Text.trim_eq_self ?_ (not_ends_with_white_space_display readable)
  rw [display]
  cases instruction.operation.keyword <;> rfl

theorem is_significant_display {instruction : Instruction} (readable : instruction.IsReadable) :
    Script.isSignificant instruction.display = true := by
  rw [Script.is_significant_iff, trim_display readable]
  refine ⟨display_ne_nil instruction, ?_⟩
  rw [display]
  cases instruction.operation.keyword <;> simp [Keyword.name]

theorem parse_line_display {instruction : Instruction} (readable : instruction.IsReadable)
    (source : Text) (number : Nat) :
    Script.parseLine source instruction.display number =
      .ok { instruction with line := number } := by
  rw [Script.parseLine, trim_display readable, scan_display readable, ofTokens, leadingName,
    Keyword.of_name?_name]
  simp only [List.tail_cons, readable.fits]

end Instruction

namespace Script

/-- The written form of instructions, one on each line. -/
def display (instructions : List Instruction) : Text :=
  Text.join ['\n'] (instructions.map Instruction.display)

/-- The instructions as they stand on consecutive lines. -/
def renumber (first : Nat) (instructions : List Instruction) : List Instruction :=
  (instructions.zipIdx first).map fun (instruction, number) => { instruction with line := number }

theorem renumber_cons (first : Nat) (instruction : Instruction) (others : List Instruction) :
    renumber first (instruction :: others) =
      { instruction with line := first } :: renumber (first + 1) others := rfl

theorem map_renumber {α : Type} (first : Nat) (instructions : List Instruction)
    (view : Instruction → α)
    (blind : ∀ (instruction : Instruction) (number : Nat),
      view { instruction with line := number } = view instruction) :
    (renumber first instructions).map view = instructions.map view := by
  induction instructions generalizing first with
  | nil => rfl
  | cons instruction others ih =>
      rw [renumber_cons, List.map_cons, List.map_cons, blind, ih]

theorem lines_renumber (first : Nat) (instructions : List Instruction) :
    (renumber first instructions).map (·.line) = List.range' first instructions.length := by
  induction instructions generalizing first with
  | nil => rfl
  | cons instruction others ih =>
      rw [renumber_cons, List.map_cons, ih, List.length_cons, List.range'_succ]

theorem is_readable_of_parse {source : Text} {instructions : List Instruction}
    (accepted : parse source = .ok instructions) :
    ∀ instruction ∈ instructions, instruction.IsReadable := by
  have related := parse_eq_ok_iff.mp accepted
  have unbroken : ∀ numbered ∈ significantLines source, '\n' ∉ numbered.1 := by
    intro numbered member
    obtain ⟨-, found, -⟩ := mem_significant_lines.mp member
    exact Text.not_mem_of_mem_lines (List.mem_of_getElem? found)
  clear accepted
  generalize significantLines source = numbered at related unbroken
  induction related with
  | nil =>
      intro instruction member
      cases member
  | cons built _ ih =>
      rw [List.forall_mem_cons] at unbroken ⊢
      exact ⟨Instruction.is_readable_of_parse_line unbroken.1 built, ih unbroken.2⟩

theorem lines_display {instructions : List Instruction}
    (readable : ∀ instruction ∈ instructions, instruction.IsReadable) :
    Text.lines (display instructions) = instructions.map Instruction.display := by
  apply Text.lines_join
  · intro text member
    obtain ⟨instruction, -, rfl⟩ := List.mem_map.mp member
    exact Instruction.display_ne_nil instruction
  · intro text member
    obtain ⟨instruction, inside, rfl⟩ := List.mem_map.mp member
    exact Instruction.unbroken_display (readable instruction inside)
  · intro text member finish
    obtain ⟨instruction, inside, rfl⟩ := List.mem_map.mp member
    have solid := Instruction.not_ends_with_white_space_display (readable instruction inside)
    rw [Text.endsWith, finish] at solid
    cases solid

theorem significant_lines_display {instructions : List Instruction}
    (readable : ∀ instruction ∈ instructions, instruction.IsReadable) :
    significantLines (display instructions) = (instructions.map Instruction.display).zipIdx 1 := by
  rw [significantLines, numberedLines, lines_display readable]
  apply List.filter_eq_self.mpr
  rintro ⟨line, number⟩ member
  obtain ⟨instruction, inside, rfl⟩ := List.mem_map.mp (List.fst_mem_of_mem_zipIdx member)
  exact Instruction.is_significant_display (readable instruction inside)

/-- Each written line is read as its instruction with the number of that line. -/
theorem parse_line_renumber {instructions : List Instruction}
    (readable : ∀ instruction ∈ instructions, instruction.IsReadable) (source : Text)
    (first : Nat) :
    List.Forall₂ (fun numbered instruction =>
      parseLine source numbered.1 numbered.2 = .ok instruction)
      ((instructions.map Instruction.display).zipIdx first) (renumber first instructions) := by
  induction instructions generalizing first with
  | nil => exact .nil
  | cons instruction others ih =>
      rw [List.forall_mem_cons] at readable
      rw [List.map_cons, List.zipIdx_cons, renumber_cons]
      exact .cons (Instruction.parse_line_display readable.1 source first) (ih readable.2 _)

theorem parse_display {instructions : List Instruction}
    (readable : ∀ instruction ∈ instructions, instruction.IsReadable) :
    parse (display instructions) = .ok (renumber 1 instructions) := by
  rw [parse_eq_ok_iff, significant_lines_display readable]
  exact parse_line_renumber readable _ 1

/-- Writing the instructions of a source and reading them again gives the same operations with the
same tokens, in order, on the lines from one on. Writing these once more changes nothing. -/
theorem reread_display {source : Text} {instructions : List Instruction}
    (accepted : parse source = .ok instructions) :
    ∃ reread, parse (display instructions) = .ok reread ∧
      reread.map (fun instruction => (instruction.operation, instruction.parameters)) =
        instructions.map (fun instruction => (instruction.operation, instruction.parameters)) ∧
      reread.map (·.line) = List.range' 1 instructions.length ∧
      display reread = display instructions := by
  have readable := is_readable_of_parse accepted
  refine ⟨renumber 1 instructions, parse_display readable, ?_, lines_renumber 1 instructions, ?_⟩
  · exact map_renumber 1 instructions _ fun _ _ => rfl
  · rw [display, map_renumber 1 instructions Instruction.display fun _ _ => rfl]
    rfl

/-- Glued tokens, a dropped character, an unpaired quote, a comment and carriage returns leave no trace
in the written form. -/
theorem reread_display_glued :
    ∃ instructions, parse "set a$b \"\r\";\n# note\r\n\techo[]g*$v\"\r\n".toList = .ok instructions ∧
      display instructions = "set a $b \"\r\"\necho []g * $v".toList ∧
      ∃ reread, parse (display instructions) = .ok reread ∧ reread.map (·.line) = [1, 2] := by
  have accepted : parse "set a$b \"\r\";\n# note\r\n\techo[]g*$v\"\r\n".toList =
      .ok [⟨1, .set ['a'] ⟨.variable, ['$', 'b']⟩,
            [⟨.word, ['a']⟩, ⟨.variable, ['$', 'b']⟩, ⟨.quoted, ['"', '\r', '"']⟩]⟩,
          ⟨3, .echo [⟨.group, ['[', ']', 'g']⟩, ⟨.word, ['*']⟩, ⟨.variable, ['$', 'v']⟩],
            [⟨.group, ['[', ']', 'g']⟩, ⟨.word, ['*']⟩, ⟨.variable, ['$', 'v']⟩]⟩] := by
    cbv
  obtain ⟨reread, read, -, lines, -⟩ := reread_display accepted
  exact ⟨_, accepted, rfl, reread, read, lines⟩

end Script

end LineScript
