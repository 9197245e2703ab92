import LineScript.Text.Basic

/-!
# Lines

A line ends at a line feed, or at the end of the text. One carriage return just before the line feed
belongs to the line's end; a carriage return anywhere else belongs to the line.
-/

namespace LineScript.Text

set_option autoImplicit false

def lines : Text → List Text
  | [] => []
  | c :: rest =>
    if c = '\n' then [] :: lines rest
    else if c = '\r' ∧ rest.head? = some '\n' then lines rest
    else
      match lines rest with
      | [] => [[c]]
      | line :: others => (c :: line) :: others

@[simp] theorem lines_line_feed (rest : Text) : lines ('\n' :: rest) = [] :: lines rest := by
  simp [lines]

theorem not_mem_of_mem_lines {line : Text} : ∀ {text : Text}, line ∈ lines text → '\n' ∉ line
  | [], found => by simp [lines] at found
  | c :: rest, found => by
    have later := fun {line} => @not_mem_of_mem_lines line rest
    unfold lines at found
    split at found
    · rcases List.mem_cons.mp found with rfl | found
      · simp
      · exact later found
    · rename_i other
      split at found
      · exact later found
      · split at found
        · simp only [List.mem_singleton] at found
          subst found
          simpa using fun same => other same.symm
        · rename_i line' others whole
          rcases List.mem_cons.mp found with rfl | found
          · have inner : '\n' ∉ line' := later (by simp [whole])
            simp only [List.mem_cons, not_or]
            exact ⟨fun same => other same.symm, inner⟩
          · exact later (whole ▸ List.mem_cons_of_mem _ found)

end LineScript.Text
