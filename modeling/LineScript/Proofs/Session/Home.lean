import LineScript.Proofs.Text.Quoting
import LineScript.Session

/-!
# The home directory in a value

A value changes when its `~` is expanded only if it begins with one and the home is known. Reading the
escapes of a text neither makes nor removes a leading `~`, so it makes the same difference before and
after the home is put in.
-/

namespace LineScript.Session

set_option autoImplicit false

variable {session : Session} {value : Text} {home : Text}

theorem expand_home_eq_self (other : value.head? ≠ some '~') : session.expandHome value = value := by
  unfold expandHome
  split
  · simp at other
  · rfl

theorem expand_home_of_unknown (unknown : session.home = none) : session.expandHome value = value := by
  unfold expandHome
  simp [unknown]

theorem expand_home_tilde (known : session.home = some home) (rest : Text) :
    session.expandHome ('~' :: rest) = home ++ rest := by
  simp [expandHome, known]

theorem resolve_of_not_variable (session : Session) {token : Token} (other : token.kind ≠ .variable) :
    session.resolve token = session.expandHome (Text.unquote token.text) := by
  have denoted : session.denotation token = token.text := by
    unfold denotation
    split
    · exact absurd (by assumption) other
    · rfl
  rw [resolve, denoted]

theorem head?_unescape_ne_tilde (other : value.head? ≠ some '~') :
    (Text.unescape value).head? ≠ some '~' := by
  cases value using Text.unescape.fun_cases with
  | case1 => simp [Text.unescape]
  | case2 c => simpa [Text.unescape] using other
  | case3 letter rest meant known =>
      rw [Text.unescape_escape known]
      unfold Text.escaped? at known
      grind
  | case4 letter rest unknown => simp [Text.unescape_unknown unknown]
  | case5 c d rest plain => simpa [Text.unescape_cons plain] using other

theorem expand_home_unescape_iff :
    session.expandHome (Text.unescape value) = session.expandHome value ↔
      Text.unescape value = value := by
  by_cases tilde : value.head? = some '~'
  · obtain ⟨rest, rfl⟩ := List.head?_eq_some_iff.mp tilde
    rw [Text.unescape_cons (by decide)]
    cases known : session.home with
    | none => rw [expand_home_of_unknown known, expand_home_of_unknown known]
    | some home =>
        rw [expand_home_tilde known, expand_home_tilde known]
        simp
  · rw [expand_home_eq_self tilde, expand_home_eq_self (head?_unescape_ne_tilde tilde)]

theorem expand_home_eq_self_or_absolute
    (absolute : ∀ home ∈ session.home, Path.isAbsolute home = true) (value : Text) :
    session.expandHome value = value ∧ (session.home = none ∨ value.head? ≠ some '~') ∨
      value.head? = some '~' ∧ (session.expandHome value).head? = some '/' := by
  by_cases tilde : value.head? = some '~'
  · obtain ⟨rest, rfl⟩ := List.head?_eq_some_iff.mp tilde
    cases known : session.home with
    | none => exact .inl ⟨expand_home_of_unknown known, .inl rfl⟩
    | some home =>
      have first : home.head? = some '/' := eq_of_beq (absolute home known)
      refine .inr ⟨rfl, ?_⟩
      rw [expand_home_tilde known, List.head?_append, first]
      rfl
  · exact .inl ⟨expand_home_eq_self tilde, .inr tilde⟩

/-- Where the home directory begins with a slash, neither it nor the text between quotes can restore
the text that it is put in for. -/
theorem expand_home_unquote_eq_self_iff
    (absolute : ∀ home ∈ session.home, Path.isAbsolute home = true) :
    session.expandHome (Text.unquote value) = value ↔
      ¬ value.IsWrapped ∧ (session.home = none ∨ value.head? ≠ some '~') := by
  have expanded := expand_home_eq_self_or_absolute absolute (Text.unquote value)
  by_cases wrapped : value.IsWrapped
  · have differs : session.expandHome (Text.unquote value) ≠ value := by
      obtain ⟨inside, rfl⟩ := Text.is_wrapped_iff.mp wrapped
      rw [Text.unquote_quoted] at expanded ⊢
      intro same
      rw [same] at expanded
      rcases expanded with ⟨unchanged, -⟩ | ⟨-, slash⟩
      · have short := Text.length_unescape_le inside
        rw [← unchanged] at short
        simp only [List.length_append, List.length_cons] at short
        omega
      · cases slash
    exact iff_of_false differs fun holds => holds.1 wrapped
  · rw [Text.unquote_of_not_is_wrapped wrapped] at expanded ⊢
    rcases expanded with ⟨unchanged, plain⟩ | ⟨tilde, slash⟩
    · exact iff_of_true unchanged ⟨wrapped, plain⟩
    · have differs : session.expandHome value ≠ value := by
        intro same
        rw [same, tilde] at slash
        cases slash
      refine iff_of_false differs ?_
      rintro ⟨-, unknown | other⟩
      · exact differs (expand_home_of_unknown unknown)
      · exact other tilde

end LineScript.Session
