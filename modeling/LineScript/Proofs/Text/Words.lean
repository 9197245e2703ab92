import LineScript.Proofs.Text.Runs

/-!
# The words of a text

White space separates: the words of a text with white space in the middle are those before it and then
those after it. Characters without white space between them make one word.
-/

namespace LineScript.Text

set_option autoImplicit false

variable {c : Char} {word text : Text}

/-- A text that is one word. -/
def IsWord (word : Text) : Prop := word ≠ [] ∧ ∀ c ∈ word, isWhiteSpace c = false

theorem pieces_ne_nil (text : Text) : pieces text ≠ [] := by
  cases text with
  | nil => simp [pieces]
  | cons c rest =>
      unfold pieces
      split
      · simp
      · split
        · simp
        · simp

theorem pieces_cons_solid {piece : Text} {others : List Text} (solid : isWhiteSpace c = false)
    (cut : pieces text = piece :: others) : pieces (c :: text) = (c :: piece) :: others := by
  rw [pieces, cut]
  simp [solid]

theorem pieces_append_white_space (first rest : Text) (blank : isWhiteSpace c = true) :
    pieces (first ++ c :: rest) = pieces first ++ pieces rest := by
  induction first with
  | nil => simp [pieces, blank]
  | cons d first ih =>
      by_cases white : isWhiteSpace d = true
      · simp [pieces, white, ih]
      · have solid : isWhiteSpace d = false := by simpa using white
        cases cut : pieces first with
        | nil => exact absurd cut (pieces_ne_nil first)
        | cons piece others =>
            rw [cut, List.cons_append] at ih
            rw [List.cons_append, pieces_cons_solid solid ih, pieces_cons_solid solid cut,
              List.cons_append]

theorem words_append_white_space (first rest : Text) (blank : isWhiteSpace c = true) :
    words (first ++ c :: rest) = words first ++ words rest := by
  rw [words, pieces_append_white_space first rest blank, List.filter_append]
  rfl

theorem pieces_of_solid (solid : ∀ c ∈ text, isWhiteSpace c = false) : pieces text = [text] := by
  induction text with
  | nil => rfl
  | cons c rest ih =>
      rw [List.forall_mem_cons] at solid
      exact pieces_cons_solid solid.1 (ih solid.2)

theorem IsWord.words_eq (isWord : IsWord word) : words word = [word] := by
  have nonempty := isWord.1
  rw [words, pieces_of_solid isWord.2]
  simp [nonempty]

theorem solid_of_mem_pieces (member : word ∈ pieces text) :
    ∀ c ∈ word, isWhiteSpace c = false := by
  induction text generalizing word with
  | nil =>
      have empty : word = [] := by simpa [pieces] using member
      simp [empty]
  | cons d rest ih =>
      by_cases white : isWhiteSpace d = true
      · have here : word = [] ∨ word ∈ pieces rest := by simpa [pieces, white] using member
        rcases here with empty | later
        · simp [empty]
        · exact ih later
      · have solid : isWhiteSpace d = false := by simpa using white
        cases cut : pieces rest with
        | nil => exact absurd cut (pieces_ne_nil rest)
        | cons piece others =>
            rw [pieces_cons_solid solid cut, List.mem_cons] at member
            rw [cut] at ih
            rcases member with first | later
            · have inner := ih (List.mem_cons_self : piece ∈ piece :: others)
              rw [first, List.forall_mem_cons]
              exact ⟨solid, inner⟩
            · exact ih (List.mem_cons_of_mem piece later)

theorem is_word_of_mem_words (member : word ∈ words text) : IsWord word :=
  ⟨ne_nil_of_mem_words member, solid_of_mem_pieces (List.mem_filter.mp member).1⟩

/-! ## The first word -/

theorem solid_of_mem_take_while : ∀ c ∈ text.takeWhile (!isWhiteSpace ·), isWhiteSpace c = false := by
  have inside := (take_while_drop_while_iff.mp ⟨(rfl : text.takeWhile (!isWhiteSpace ·) = _), rfl⟩).1
  intro c member
  simpa using inside c member

theorem IsWord.words_append {rest : Text} (isWord : IsWord word)
    (ends : beginsWith (!isWhiteSpace ·) rest = false) : words (word ++ rest) = word :: words rest := by
  cases rest with
  | nil =>
      rw [List.append_nil, isWord.words_eq]
      rfl
  | cons c rest =>
      have blank : isWhiteSpace c = true := by simpa using ends
      rw [words_append_white_space word rest blank, words_cons_white_space rest blank, isWord.words_eq]
      rfl

end LineScript.Text
