import Mathlib
import LineScript.Proofs.Text.Lines
import LineScript.Proofs.Token.Layout

/-!
# Lines cut at separators

A separator is a character that can neither belong to a token other than a quoted text nor begin one.
What stands before a separator and what stands after it are read apart, unless a quote is left open
before it that is closed after it. So a line with an even number of quotes may be cut at a separator,
and trimming, which takes away no quotes, never changes the tokens of a line.
-/

namespace LineScript.Token

set_option autoImplicit false

variable {c : Char} {rest after : Text} {token : Token}

/-- A character outside of words that no token but a quoted text can hold, not even as a mark. -/
structure IsSeparator (c : Char) : Prop where
  notWord : isWordChar c = false
  notQuote : c ≠ '"'
  notSentinel : c ≠ '$'
  notOpening : c ≠ '['
  notClosing : c ≠ ']'

theorem is_separator_of_is_white_space (blank : Text.isWhiteSpace c = true) : IsSeparator c := by
  have apart : ∀ mark, Text.isWhiteSpace mark = false → c ≠ mark := by
    rintro mark solid rfl
    rw [blank] at solid
    cases solid
  exact ⟨not_is_word_char_of_is_white_space blank, apart '"' rfl, apart '$' rfl, apart '[' rfl,
    apart ']' rfl⟩

theorem IsSeparator.droppable (separator : IsSeparator c) (rest : Text) : Droppable c rest where
  notWord := separator.notWord
  sentinel same := absurd same separator.notSentinel
  bracket same := absurd same separator.notOpening
  quote same := absurd same separator.notQuote

theorem is_gap_of_is_white_space {gap : Text} (blank : ∀ c ∈ gap, Text.isWhiteSpace c = true)
    (rest : Text) : IsGap gap rest := by
  induction gap with
  | nil => trivial
  | cons c gap ih =>
      rw [List.forall_mem_cons] at blank
      exact ⟨(is_separator_of_is_white_space blank.1).droppable _, ih blank.2⟩

/-! ## What may follow a line -/

/-- A text that is empty or begins with a separator. -/
def IsDetached (text : Text) : Prop := ∀ c, text.head? = some c → IsSeparator c

theorem IsSeparator.is_detached (separator : IsSeparator c) (rest : Text) : IsDetached (c :: rest) := by
  intro first same
  cases same
  exact separator

theorem is_detached_of_is_white_space (blank : ∀ c ∈ after, Text.isWhiteSpace c = true) :
    IsDetached after := by
  intro c first
  exact is_separator_of_is_white_space (blank c (List.mem_of_head? first))

theorem IsDetached.begins_with_append {accepts : Char → Bool} (detached : IsDetached after)
    (outside : ∀ c, isWordChar c = false → accepts c = false)
    (stop : Text.beginsWith accepts rest = false) :
    Text.beginsWith accepts (rest ++ after) = false := by
  cases rest with
  | cons c others => exact stop
  | nil =>
      cases after with
      | nil => rfl
      | cons c others => exact outside c (detached c rfl).notWord

theorem EndsBefore.append (ends : token.EndsBefore rest) (detached : IsDetached after) :
    token.EndsBefore (rest ++ after) := by
  obtain ⟨kind, text⟩ := token
  cases kind with
  | quoted => trivial
  | «variable» => exact detached.begins_with_append (fun _ => not_is_name_char_of_not_is_word_char) ends
  | group => exact detached.begins_with_append (fun _ => not_is_name_char_of_not_is_word_char) ends
  | word => exact detached.begins_with_append (fun _ => id) ends

/-- A character that is dropped before the end of a line is dropped before what follows the line. -/
theorem Droppable.append (droppable : Droppable c rest) (detached : IsDetached after)
    (closed : c = '"' → '"' ∉ after) : Droppable c (rest ++ after) where
  notWord := droppable.notWord
  sentinel same :=
    detached.begins_with_append (fun _ => not_is_name_char_of_not_is_word_char) (droppable.sentinel same)
  bracket := by
    intro same afterPair split
    cases rest with
    | nil =>
        have closing : IsSeparator ']' := detached ']' (congrArg List.head? split)
        exact absurd rfl closing.notClosing
    | cons d others =>
        obtain ⟨rfl, rfl⟩ := List.cons.inj split
        exact detached.begins_with_append (fun _ => not_is_name_char_of_not_is_word_char)
          (droppable.bracket same others rfl)
  quote same := by
    rw [List.mem_append, not_or]
    exact ⟨droppable.quote same, closed same⟩

theorem IsGap.append {gap : Text} (skipped : IsGap gap rest) (detached : IsDetached after)
    (closed : '"' ∈ gap → '"' ∉ after) : IsGap gap (rest ++ after) := by
  induction gap with
  | nil => trivial
  | cons c gap ih =>
      have here : Droppable c ((gap ++ rest) ++ after) := skipped.1.append detached fun same =>
        closed (by simp [same])
      rw [List.append_assoc] at here
      exact ⟨here, ih skipped.2 fun member => closed (List.mem_cons_of_mem c member)⟩

/-! ## Quotes that are left open -/

theorem length_quote_places (start : Nat) (text : Text) :
    (quotePlaces start text).length = text.count '"' := by
  induction text generalizing start with
  | nil => rfl
  | cons c rest ih =>
      rw [quotePlaces, List.count_cons]
      split
      · simp_all
      · simp_all

theorem count_quote_of_mem_gap {gap : Text} (skipped : IsGap gap rest) (member : '"' ∈ gap) :
    gap.count '"' = 1 ∧ rest.count '"' = 0 := by
  rw [← length_quote_places 0 gap]
  rcases quote_places_gap 0 skipped with none | ⟨unquoted, place, one⟩
  · have positive : 0 < gap.count '"' := List.count_pos_iff.mpr member
    rw [← length_quote_places 0 gap, none] at positive
    cases positive
  · exact ⟨by rw [one]; rfl, List.count_eq_zero.mpr unquoted⟩

theorem HasShape.even_count_quote (shape : HasShape token) : Even (token.text.count '"') := by
  by_cases quoted : token.kind = .quoted
  · cases shape with
    | quoted inside unquoted =>
        have inner : inside.count '"' = 0 := List.count_eq_zero.mpr unquoted
        have outer : ('"' :: inside ++ ['"']).count '"' = 2 := by simp [inner]
        exact ⟨1, outer⟩
    | _ => cases quoted
  · rw [List.count_eq_zero.mpr (shape.quote_not_mem quoted)]
    exact Even.zero

theorem quote_not_mem_gap {gap text : Text} (skipped : IsGap gap text)
    (even : Even ((gap ++ text).count '"')) : '"' ∉ gap := by
  intro member
  obtain ⟨one, none⟩ := count_quote_of_mem_gap skipped member
  rw [List.count_append, one, none] at even
  exact absurd even (by decide)

/-- A gap stays one when a separator follows the line, unless the line leaves a quote open that what
follows closes. -/
theorem IsGap.append_of_closed {gap : Text} (skipped : IsGap gap rest) (detached : IsDetached after)
    (closed : Even ((gap ++ rest).count '"') ∨ '"' ∉ after) : IsGap gap (rest ++ after) := by
  refine skipped.append detached fun member => ?_
  rcases closed with even | unquoted
  · exact absurd member (quote_not_mem_gap skipped even)
  · exact unquoted

/-! ## Reading on after a line -/

namespace Layout

/-- A line that is cut lexically keeps its tokens when a separator follows it, provided that no quote
is left open in the line or none comes after it. -/
theorem scan_append {layout : Layout} (lexical : layout.IsLexical) (detached : IsDetached after)
    (closed : Even (layout.text.count '"') ∨ '"' ∉ after) :
    scan (layout.text ++ after) = layout.tokens ++ scan after := by
  induction layout with
  | last gap =>
      rw [text, tokens, List.nil_append]
      have skippedOn := IsGap.append_of_closed lexical detached (by rwa [List.append_nil])
      exact scan_gap skippedOn
  | cons gap token others ih =>
      obtain ⟨skipped, shape, ends, lexicalOthers⟩ := lexical
      have closedOthers : Even (others.text.count '"') ∨ '"' ∉ after := by
        refine closed.imp_left fun even => ?_
        have gap_count : gap.count '"' = 0 :=
          List.count_eq_zero.mpr (quote_not_mem_gap skipped even)
        rw [text, List.count_append, List.count_append, gap_count, Nat.zero_add] at even
        exact (Nat.even_add.mp even).mp shape.even_count_quote
      have skippedOn := skipped.append_of_closed detached closed
      rw [List.append_assoc] at skippedOn
      rw [text, tokens, List.append_assoc, List.append_assoc, scan_gap skippedOn,
        scan_token shape (ends.append detached), ih lexicalOthers closedOthers, List.cons_append]

end Layout

theorem scan_append {line : Text} (detached : IsDetached after)
    (closed : Even (line.count '"') ∨ '"' ∉ after) :
    scan (line ++ after) = scan line ++ scan after := by
  obtain ⟨layout, rfl, lexical⟩ := Layout.exists_is_lexical line
  rw [Layout.scan_append lexical detached closed, Layout.tokens_eq_scan lexical]

theorem scan_trim (line : Text) : scan (Text.trim line) = scan line := by
  obtain ⟨before, after, split, blankBefore, blankAfter⟩ := Text.exists_trim line
  have unquoted : '"' ∉ after := by
    intro member
    exact absurd (blankAfter '"' member) (by decide)
  have nothing : scan after = [] := scan_eq_nil_of_gap (is_gap_of_is_white_space blankAfter [])
  calc scan (Text.trim line)
      = scan (Text.trim line) ++ scan after := by rw [nothing, List.append_nil]
    _ = scan (Text.trim line ++ after) :=
        (scan_append (is_detached_of_is_white_space blankAfter) (.inr unquoted)).symm
    _ = scan (before ++ (Text.trim line ++ after)) :=
        (scan_gap (is_gap_of_is_white_space blankBefore _)).symm
    _ = scan line := by rw [← split]

/-- Reading is compositional at separators. A line whose part before a separator has an even number of
quotes has the tokens of that part and then those of the part after the separator, and every line has
the tokens that it has once it is trimmed, however many quotes there are in it. -/
theorem scan_composes_at_separators :
    (∀ (first second : Text) (c : Char), IsSeparator c → Even (first.count '"') →
      scan (first ++ c :: second) = scan first ++ scan second) ∧
    ∀ line : Text, scan (Text.trim line) = scan line := by
  refine ⟨?_, scan_trim⟩
  intro first second c separator even
  have passed : scan (c :: second) = scan second :=
    scan_congr (next?_of_droppable (separator.droppable second))
  rw [scan_append (separator.is_detached second) (.inl even), passed]

/-- A bracket pair and a `$` before the separator do not reach across it, and the quote after it is not
paired with those before it. -/
theorem scan_composes_at_separators_after_half_open :
    let first : Text := ['"', 'a', ';', '"', 'x', '[', ']', '$']
    let second : Text := ['y', '"', '[', ']', 'z']
    IsSeparator ';' ∧ Even (first.count '"') ∧
      scan (first ++ ';' :: second) =
        [⟨.quoted, ['"', 'a', ';', '"']⟩, ⟨.word, ['x']⟩, ⟨.word, ['y']⟩,
          ⟨.group, ['[', ']', 'z']⟩] := by
  intro first second
  have separator : IsSeparator ';' := ⟨by decide, by decide, by decide, by decide, by decide⟩
  have even : Even (first.count '"') := by decide
  have before : scan ['"', 'a', ';', '"', 'x', '[', ']', '$'] =
      [⟨.quoted, ['"', 'a', ';', '"']⟩, ⟨.word, ['x']⟩] := by
    cbv
  have behind : scan ['y', '"', '[', ']', 'z'] = [⟨.word, ['y']⟩, ⟨.group, ['[', ']', 'z']⟩] := by
    cbv
  refine ⟨separator, even, ?_⟩
  rw [scan_composes_at_separators.1 first second ';' separator even, before, behind]
  rfl

end LineScript.Token
