import LineScript.Proofs.Script.Display
import LineScript.Proofs.Session.Home

/-!
# What a quoted literal can denote

A span ends at the next quote, whatever stands before it, and the escapes are read only afterwards. So
a literal can denote every text without a double quote, written with its backslashes doubled and its
line feeds escaped, and no other text.
-/

namespace LineScript.Script

set_option autoImplicit false

variable {path : Token} {value : Text}

/-- The line that writes a value, given as a literal, to the file that a token names. -/
def writingLine (path : Token) (value : Text) : Text :=
  Keyword.write.name ++ ' ' :: path.text ++ ' ' :: Text.literal value

def writing (path : Token) (value : Text) : Instruction :=
  ⟨1, .write path ⟨.quoted, Text.literal value⟩, [path, ⟨.quoted, Text.literal value⟩]⟩

theorem literal_has_shape (unquoted : '"' ∉ value) :
    Token.HasShape ⟨.quoted, Text.literal value⟩ :=
  .quoted _ (Text.quote_not_mem_escape unquoted)

theorem line_feed_not_mem_literal (value : Text) : '\n' ∉ Text.literal value := by
  have inner := Text.line_feed_not_mem_escape value
  simp [Text.literal, inner]

theorem writing_is_readable (shape : path.HasShape) (unbroken : '\n' ∉ path.text)
    (unquoted : '"' ∉ value) : (writing path value).IsReadable where
  shapes := by simpa [writing] using ⟨shape, literal_has_shape unquoted⟩
  unbroken := by simpa [writing] using ⟨unbroken, line_feed_not_mem_literal value⟩
  fits := rfl

/-- The written form of an instruction that writes is its line, which is read again. -/
theorem parse_writing_line (shape : path.HasShape) (unbroken : '\n' ∉ path.text)
    (unquoted : '"' ∉ value) : parse (writingLine path value) = .ok [writing path value] := by
  have shown : display [writing path value] = writingLine path value := by
    simp [display, Text.join, Instruction.display, writing, writingLine, Operation.keyword]
  have readable : ∀ instruction ∈ [writing path value], instruction.IsReadable := by
    simpa using writing_is_readable shape unbroken unquoted
  rw [← shown, parse_display readable]
  rfl

theorem quote_not_mem_unquote {token : Token} (shape : token.HasShape) (quoted : token.kind = .quoted) :
    '"' ∉ Text.unquote token.text := by
  cases shape with
  | quoted inside unquoted =>
      rw [Text.unquote_quoted]
      exact Text.quote_not_mem_unescape unquoted
  | _ => cases quoted

/-- Every text without a double quote is the value of a literal: its line is read as one instruction
whose data token stands for the text, and denotes it unless a home takes the place of a leading `~`.
No literal that a line can hold stands for any other text, though removing quotes can give a double
quote. -/
theorem quoted_literals_denote_quoteless_texts :
    (∀ (path : Token) (value : Text), path.HasShape → '\n' ∉ path.text → '"' ∉ value →
      parse (writingLine path value) = .ok [writing path value] ∧
      Text.unquote (Text.literal value) = value ∧
      ∀ session : Session, value.head? ≠ some '~' ∨ session.home = none →
        session.resolve ⟨.quoted, Text.literal value⟩ = value) ∧
    (∀ (line : Text) (token : Token), token ∈ Token.scan line → token.kind = .quoted →
      '"' ∉ Text.unquote token.text) ∧
    (∀ value : Text, (∃ line, ∃ token ∈ Token.scan line,
        token.kind = .quoted ∧ Text.unquote token.text = value) ↔ '"' ∉ value) ∧
    Text.unquote ['"', '\\', '"', '"'] = ['"'] := by
  have never : ∀ (line : Text) (token : Token), token ∈ Token.scan line → token.kind = .quoted →
      '"' ∉ Text.unquote token.text := by
    intro line token member quoted
    exact quote_not_mem_unquote (Token.shape_of_mem_scan member).1 quoted
  refine ⟨?_, never, ?_, rfl⟩
  · intro path value shape unbroken unquoted
    refine ⟨parse_writing_line shape unbroken unquoted, Text.unquote_literal value, ?_⟩
    intro session homeless
    have resolved : session.resolve ⟨.quoted, Text.literal value⟩ =
        session.expandHome (Text.unquote (Text.literal value)) :=
      session.resolve_of_not_variable nofun
    rw [resolved, Text.unquote_literal]
    rcases homeless with other | unknown
    · exact Session.expand_home_eq_self other
    · exact Session.expand_home_of_unknown unknown
  · intro value
    constructor
    · rintro ⟨line, token, member, quoted, rfl⟩
      exact never line token member quoted
    · intro unquoted
      have shape := literal_has_shape unquoted
      have alone : Token.scan (Text.literal value ++ []) =
          ⟨.quoted, Text.literal value⟩ :: Token.scan [] := Token.scan_token shape trivial
      rw [List.append_nil] at alone
      exact ⟨Text.literal value, ⟨.quoted, Text.literal value⟩, by simp [alone], rfl,
        Text.unquote_literal value⟩

/-- A carriage return stays as it is, and a backslash before the closing quote does not escape it. -/
theorem quoted_literal_denotes_text_ending_in_backslash :
    let value : Text := ['#', '\\', '\r', '\n', '\\']
    let written : Token := ⟨.quoted, "\"#\\\\\r\\n\\\\\"".toList⟩
    parse "write f \"#\\\\\r\\n\\\\\"".toList =
        .ok [⟨1, .write ⟨.word, ['f']⟩ written, [⟨.word, ['f']⟩, written]⟩] ∧
      (Session.start ['/'] (some ['/', 'h'])).resolve written = value := by
  intro value written
  have letter : Text.isAlphanumeric 'f' = true := Text.is_alphanumeric_of_ascii (by decide)
  have accepted : isWordChar 'f' = true := by simp [isWordChar, isNameChar, letter]
  have shape : Token.HasShape ⟨.word, ['f']⟩ := .word ['f'] (by decide) (by simpa using accepted)
  obtain ⟨parsed, -, denoted⟩ := quoted_literals_denote_quoteless_texts.1 ⟨.word, ['f']⟩ value shape
    (by decide) (by decide)
  exact ⟨parsed, denoted _ (.inl (by decide))⟩

end LineScript.Script
