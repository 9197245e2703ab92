import LineScript.Proofs.Session.Home
import LineScript.Proofs.Token.Reader

/-!
# Reading a variable after it is bound

A reference reads the value that was bound last, whatever that value looks like. For a token that is
bound with `set` this is its text without outer quotes, in which no escape has been read; the escapes
are all that a value loses on the way through a variable.
-/

namespace LineScript

set_option autoImplicit false

variable {name : Text} {token : Token}

theorem Token.variable_name_reference (shape : Token.HasShape ⟨.variable, '$' :: name⟩) :
    Token.variableName ('$' :: name) = name := by
  cases shape with
  | reference _ nonempty spelled =>
      cases name with
      | nil => exact absurd rfl nonempty
      | cons c rest =>
          have accepted : isNameChar c = true := spelled c (by simp)
          have different : c ≠ '$' := by
            intro same
            rw [same] at accepted
            exact absurd accepted (by decide)
          simp [Token.variableName, different]

namespace Session

theorem lookup_set_variable (session : Session) (value : Text)
    (shape : Token.HasShape ⟨.variable, '$' :: name⟩) :
    (session.setVariable name value).lookup ('$' :: name) = value := by
  rw [lookup, Token.variable_name_reference shape, value_of?_set_variable_self]
  rfl

section Reference

variable {session : Session}

theorem echoed_reference (holds : session.lookup ('$' :: name) = Text.trimMarks '"' token.text)
    (other : token.kind ≠ .variable) :
    session.echoed ⟨.variable, '$' :: name⟩ = session.echoed token := by
  have printed : session.echoed token = Text.trimMarks '"' token.text := by
    unfold echoed
    split
    · exact absurd (by assumption) other
    · rfl
  rw [printed, ← holds]
  rfl

theorem resolve_reference {value : Text} (holds : session.lookup ('$' :: name) = value)
    (unquoted : '"' ∉ value) :
    session.resolve ⟨.variable, '$' :: name⟩ = session.expandHome value := by
  rw [resolve, denotation, holds, Text.unquote_eq_self unquoted]

/-- A token without quotes is the same value in its place and through a variable. -/
theorem resolve_reference_of_not_quoted
    (holds : session.lookup ('$' :: name) = Text.trimMarks '"' token.text) (shape : token.HasShape)
    (unquoted : token.kind ≠ .quoted) :
    session.resolve ⟨.variable, '$' :: name⟩ = session.expandHome token.text := by
  have quoteless := shape.quote_not_mem unquoted
  rw [Text.trim_marks_eq_self quoteless] at holds
  exact resolve_reference holds quoteless

/-- A text between quotes is the same value in its place and through a variable exactly when it has no
escapes: through a variable they are not read. -/
theorem resolve_reference_quoted_iff {inside : Text}
    (holds : session.lookup ('$' :: name) = Text.trimMarks '"' ('"' :: inside ++ ['"']))
    (unquoted : '"' ∉ inside) :
    session.resolve ⟨.variable, '$' :: name⟩ = session.resolve ⟨.quoted, '"' :: inside ++ ['"']⟩ ↔
      Text.unescape inside = inside := by
  have inPlace : session.resolve ⟨.quoted, '"' :: inside ++ ['"']⟩ =
      session.expandHome (Text.unquote ('"' :: inside ++ ['"'])) :=
    session.resolve_of_not_variable nofun
  rw [Text.trim_marks_quoted unquoted] at holds
  rw [resolve_reference holds unquoted, inPlace, Text.unquote_quoted, eq_comm, expand_home_unescape_iff]

/-- The values of a literal in its place and through a variable are the same unless it is quoted and has
escapes. -/
theorem resolve_reference_iff
    (holds : session.lookup ('$' :: name) = Text.trimMarks '"' token.text) (shape : token.HasShape)
    (literal : token.kind ≠ .variable) :
    session.resolve ⟨.variable, '$' :: name⟩ = session.resolve token ↔
      token.kind = .word ∨ token.kind = .group ∨
        ∃ inside, token = ⟨.quoted, '"' :: inside ++ ['"']⟩ ∧ Text.unescape inside = inside := by
  by_cases quoted : token.kind = .quoted
  · cases shape with
    | quoted inside unquoted =>
        rw [resolve_reference_quoted_iff holds unquoted]
        simp
    | _ => cases quoted
  · have through := resolve_reference_of_not_quoted holds shape quoted
    have quoteless := shape.quote_not_mem quoted
    have inPlace := session.resolve_of_not_variable literal
    rw [Text.unquote_eq_self quoteless] at inPlace
    have unmarked : token.kind = .word ∨ token.kind = .group := by
      cases kind : token.kind with
      | word => simp
      | group => simp
      | quoted => exact absurd kind quoted
      | «variable» => exact absurd kind literal
    rcases unmarked with word | group
    · simp [through, inPlace, word]
    · simp [through, inPlace, group]

theorem resolve_reference_of_variable
    (holds : session.lookup ('$' :: name) = Text.trimMarks '"' token.text) (shape : token.HasShape)
    (refers : token.kind = .variable) : session.resolve ⟨.variable, '$' :: name⟩ = token.text := by
  have unquoted : token.kind ≠ .quoted := by simp [refers]
  rw [resolve_reference_of_not_quoted holds shape unquoted]
  cases shape with
  | reference name nonempty spelled => exact expand_home_eq_self (by simp)
  | _ => cases refers

end Reference

end Session

end LineScript
