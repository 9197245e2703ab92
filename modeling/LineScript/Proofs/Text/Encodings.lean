import LineScript.Proofs.Text.Quoting

/-!
# The ways of writing a value between quotes

A backslash is doubled. A line feed, a tab, a carriage return, the null character and the quotes of
both kinds stand as they are or as an escape, at each of their places anew, and every other character
stands as it is. The main statement says that removing the quotes undoes every such writing, whatever
the value begins and ends with, and that no value is changed but one that stands between quotes.
-/

namespace LineScript.Text

set_option autoImplicit false

variable {c : Char} {value written spelling : Text}

/-- The characters that may be written as an escape, each with the letter of its escape. -/
def escapeLetters : List (Char × Char) :=
  [('\n', 'n'), ('\t', 't'), ('\r', 'r'), ('\x00', '0'), ('"', '"'), ('\'', '\'')]

/-- The ways of writing one character between quotes. -/
def spellings (c : Char) : List Text :=
  if c = '\\' then [['\\', '\\']]
  else [c] :: (escapeLetters.filter (·.1 == c)).map fun escape => ['\\', escape.2]

/-- The ways of writing a value between quotes, each of its characters in one of its own ways. -/
def encodings : Text → List Text
  | [] => [[]]
  | c :: rest => (spellings c).flatMap fun first => (encodings rest).map (first ++ ·)

theorem escaped?_of_mem_escape_letters :
    ∀ escape ∈ escapeLetters, escaped? escape.2 = some escape.1 := by
  decide

theorem Spells.append (member : spelling ∈ spellings c) (spells : Spells written value) :
    Spells (spelling ++ written) (c :: value) := by
  unfold spellings at member
  split at member
  · rename_i backslash
    rw [List.mem_singleton] at member
    subst backslash member
    exact .escaped rfl spells
  · rename_i plain
    rcases List.mem_cons.mp member with rfl | escaped
    · exact .plain plain spells
    · obtain ⟨escape, kept, rfl⟩ := List.mem_map.mp escaped
      obtain ⟨listed, same⟩ := List.mem_filter.mp kept
      have known := escaped?_of_mem_escape_letters escape listed
      rw [eq_of_beq same] at known
      exact .escaped known spells

theorem spells_of_mem_encodings (member : written ∈ encodings value) : Spells written value := by
  induction value generalizing written with
  | nil =>
      rw [List.mem_singleton.mp member]
      exact .nil
  | cons c rest ih =>
      obtain ⟨first, spelling, tail⟩ := List.mem_flatMap.mp member
      obtain ⟨later, encoded, rfl⟩ := List.mem_map.mp tail
      exact (ih encoded).append spelling

theorem length_unquote_of_is_wrapped (wrapped : value.IsWrapped) :
    (unquote value).length + 2 ≤ value.length := by
  obtain ⟨inside, rfl⟩ := is_wrapped_iff.mp wrapped
  have shorter := length_unescape_le inside
  rw [unquote_quoted, List.length_append, List.length_cons, List.length_singleton]
  omega

theorem unquote_ne_self_iff : unquote value ≠ value ↔ value.IsWrapped := by
  constructor
  · intro changed
    by_cases wrapped : value.IsWrapped
    · exact wrapped
    · exact absurd (unquote_of_not_is_wrapped wrapped) changed
  · intro wrapped same
    have shorter := length_unquote_of_is_wrapped wrapped
    rw [same] at shorter
    omega

/-- Removing quotes undoes every way of writing a value between them, by one layer exactly. It changes
the values of at least two characters that begin and end with a quote, which become shorter by two at
least, and no other value. -/
theorem unquote_undoes_every_encoding (value : Text) :
    (∀ written ∈ encodings value, unquote ('"' :: written ++ ['"']) = value) ∧
      (unquote value ≠ value ↔
        2 ≤ value.length ∧ value.head? = some '"' ∧ value.getLast? = some '"') ∧
      (unquote value ≠ value → (unquote value).length + 2 ≤ value.length) := by
  refine ⟨?_, unquote_ne_self_iff, ?_⟩
  · intro written member
    rw [unquote_quoted, (spells_of_mem_encodings member).unescape_eq]
  · intro changed
    exact length_unquote_of_is_wrapped (unquote_ne_self_iff.mp changed)

/-- A value between quotes of its own, the one raw and the other escaped, with a backslash beside each
and its line feeds written in both ways. -/
theorem unquote_undoes_mixed_encoding :
    let value : Text := ['"', '\\', '\n', '\n', '\'', '\\', '"']
    let written : Text :=
      ['"', '\\', '\\', '\\', 'n', '\n', '\\', '\'', '\\', '\\', '\\', '"']
    written ∈ encodings value ∧ unquote ('"' :: written ++ ['"']) = value ∧
      unquote value = ['\\', '\n', '\n', '\'', '\\'] ∧ (unquote value).length + 2 ≤ value.length := by
  intro value written
  have member : written ∈ encodings value := by decide
  have stripped : unquote value = ['\\', '\n', '\n', '\'', '\\'] := by decide
  have changed : unquote value ≠ value := by
    rw [stripped]
    decide
  obtain ⟨undone, -, shorter⟩ := unquote_undoes_every_encoding value
  exact ⟨member, undone written member, stripped, shorter changed⟩

end LineScript.Text
