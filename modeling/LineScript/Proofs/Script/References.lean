import LineScript.Proofs.Script.Display
import LineScript.Proofs.Session.Variables

/-!
# Names that a reference can read

A value can be bound under any name that a target token gives. References are made of `$` and name
characters only, so no line can read what is bound under an empty name or a name with another
character.
-/

namespace LineScript.Token

set_option autoImplicit false

variable {name : Text} {token : Token}

/-- A name that can follow the `$` of a reference. -/
def IsReferable (name : Text) : Prop := name ≠ [] ∧ ∀ c ∈ name, isNameChar c = true

/-- The token is a reference that reads the name, whatever is bound. -/
def ReadsName (token : Token) (name : Text) : Prop :=
  token.kind = .variable ∧
    ∀ session : Session, session.lookup token.text = (session.valueOf? name).getD []

/-- As a target the token gives a name that can be read. -/
def NamesReferable (token : Token) : Prop :=
  match token.kind with
  | .variable => True
  | .word => '*' ∉ token.text ∧ '?' ∉ token.text ∧ '-' ∉ token.text
  | .group => False
  | .quoted => ∃ inside, token.text = '"' :: inside ++ ['"'] ∧ IsReferable inside

theorem IsReferable.has_shape (referable : IsReferable name) : HasShape ⟨.variable, '$' :: name⟩ :=
  .reference name referable.1 referable.2

theorem reads_name_iff :
    token.ReadsName name ↔ token.kind = .variable ∧ variableName token.text = name := by
  constructor
  · rintro ⟨kind_eq, reads⟩
    refine ⟨kind_eq, ?_⟩
    -- A session in which the name alone is bound tells it from every other.
    have here := reads ((Session.start [] none).setVariable name ['x'])
    rw [Session.value_of?_set_variable_self, Session.lookup] at here
    by_contra distinct
    rw [Session.value_of?_set_variable_of_ne _ _ distinct] at here
    cases here
  · rintro ⟨kind_eq, rfl⟩
    exact ⟨kind_eq, fun session => rfl⟩

theorem scan_reference (referable : IsReferable name) {rest : Text}
    (ends : rest = [] ∨ rest.head? = some ' ') :
    scan ('$' :: name ++ rest) = ⟨.variable, '$' :: name⟩ :: scan rest := by
  have stop : EndsBefore ⟨.variable, '$' :: name⟩ rest := by
    obtain rfl | blank := ends
    · rfl
    · change Text.beginsWith isNameChar rest = false
      rw [Text.beginsWith, blank]
      decide
  exact scan_token referable.has_shape stop

theorem exists_reads_name_iff :
    (∃ line, ∃ token ∈ scan line, token.ReadsName name) ↔ IsReferable name := by
  constructor
  · rintro ⟨line, token, member, reads⟩
    obtain ⟨kind_eq, name_eq⟩ := reads_name_iff.mp reads
    obtain ⟨shape, -⟩ := shape_of_mem_scan member
    cases shape with
    | reference other nonempty spelled =>
      rw [variable_name_reference (.reference other nonempty spelled)] at name_eq
      rw [← name_eq]
      exact ⟨nonempty, spelled⟩
    | _ => cases kind_eq
  · intro referable
    have alone := scan_reference referable (.inl rfl)
    rw [List.append_nil] at alone
    refine ⟨'$' :: name, ⟨.variable, '$' :: name⟩, by simp [alone], ?_⟩
    exact reads_name_iff.mpr ⟨rfl, variable_name_reference referable.has_shape⟩

theorem is_name_char_iff {c : Char} :
    isNameChar c = true ↔ isWordChar c = true ∧ c ≠ '*' ∧ c ≠ '?' ∧ c ≠ '-' := by
  constructor
  · intro accepted
    refine ⟨is_word_char_of_is_name_char accepted, ?_, ?_, ?_⟩
    · rintro rfl
      exact absurd accepted (by decide)
    · rintro rfl
      exact absurd accepted (by decide)
    · rintro rfl
      exact absurd accepted (by decide)
  · rintro ⟨accepted, star, query, dash⟩
    simpa [isWordChar, star, query, dash] using accepted

theorem is_referable_binding_name_iff (shape : token.HasShape) :
    IsReferable token.bindingName ↔ token.NamesReferable := by
  cases shape with
  | quoted inside unquoted =>
    rw [bindingName, Text.trim_marks_quoted unquoted]
    constructor
    · intro referable
      exact ⟨inside, rfl, referable⟩
    · rintro ⟨other, same, referable⟩
      have inside_eq : inside = other := by simpa using same
      rwa [inside_eq]
  | reference name nonempty spelled =>
    rw [bindingName, variable_name_reference (.reference name nonempty spelled)]
    exact ⟨fun _ => trivial, fun _ => ⟨nonempty, spelled⟩⟩
  | groupMark name nonempty spelled =>
    refine ⟨?_, False.elim⟩
    rintro ⟨-, accepted⟩
    have bracket : isNameChar '[' = true := accepted '[' List.mem_cons_self
    exact absurd bracket (by decide)
  | word text nonempty spelled =>
    constructor
    · rintro ⟨-, accepted⟩
      refine ⟨?_, ?_, ?_⟩
      · intro member
        exact (is_name_char_iff.mp (accepted _ member)).2.1 rfl
      · intro member
        exact (is_name_char_iff.mp (accepted _ member)).2.2.1 rfl
      · intro member
        exact (is_name_char_iff.mp (accepted _ member)).2.2.2 rfl
    · rintro ⟨star, query, dash⟩
      refine ⟨nonempty, fun c member => is_name_char_iff.mpr ⟨spelled c member, ?_, ?_, ?_⟩⟩
      · exact fun same => star (same ▸ member)
      · exact fun same => query (same ▸ member)
      · exact fun same => dash (same ▸ member)

end LineScript.Token
