import LineScript.Proofs.Script.Rejection

/-!
# The lines that an excerpt shows

An excerpt shows the lines of a window: those at most three lines away from the line that it is about,
as far as the source has them. The main statement says which entries these are and how each is
written, that at most one of them is marked, and that the fault of a rejected source shows the line
whose tokens were refused as it stands in the source.
-/

namespace LineScript.Script

set_option autoImplicit false

variable {source : Text} {line number : Nat}

/-- An entry for one line of a source, in an excerpt about another: the mark, the number with blanks
before it in at least four columns, and the line as it stands in the source. -/
def IsEntry (source : Text) (marked number : Nat) (entry : Text) : Prop :=
  ∃ text, (Text.lines source)[number - 1]? = some text ∧
    entry = (if number = marked then '>' else ' ') ::
      List.leftpad 4 ' ' (Nat.toDigits 10 number) ++ [':', ' '] ++ text

/-- The line numbers, in order, that lie in a source and at most three away from a line. -/
structure IsWindow (source : Text) (line : Nat) (numbers : List Nat) : Prop where
  increasing : numbers.Pairwise (· < ·)
  mem_iff : ∀ number, number ∈ numbers ↔
    max 1 (line - 3) ≤ number ∧ number ≤ min (Text.lines source).length (line + 3)

theorem mem_numbered_lines_iff {text : Text} :
    (text, number) ∈ numberedLines source ↔
      1 ≤ number ∧ (Text.lines source)[number - 1]? = some text :=
  List.mk_mem_zipIdx_iff_le_and_getElem?_sub

theorem is_entry_excerpt_entry {text : Text} (numbered : (text, number) ∈ numberedLines source) :
    IsEntry source line number (excerptEntry line text number) :=
  ⟨text, (mem_numbered_lines_iff.mp numbered).2, rfl⟩

theorem mem_shown_numbers_iff :
    number ∈ (shownLines source line).map (·.2) ↔
      max 1 (line - 3) ≤ number ∧ number ≤ min (Text.lines source).length (line + 3) := by
  have shown_iff : ∀ text, (text, number) ∈ shownLines source line ↔
      (text, number) ∈ numberedLines source ∧ max (line - 3) 1 ≤ number ∧ number ≤ line + 3 := by
    intro text
    rw [shownLines, List.mem_filter, Bool.and_eq_true, decide_eq_true_eq, decide_eq_true_eq]
    exact Iff.rfl
  constructor
  · intro member
    obtain ⟨⟨text, found⟩, shown, same⟩ := List.mem_map.mp member
    change found = number at same
    subst same
    obtain ⟨numbered, low, high⟩ := (shown_iff text).mp shown
    obtain ⟨positive, standing⟩ := mem_numbered_lines_iff.mp numbered
    obtain ⟨inside, -⟩ := List.getElem?_eq_some_iff.mp standing
    omega
  · rintro ⟨low, high⟩
    have inside : number - 1 < (Text.lines source).length := by omega
    have standing := List.getElem?_eq_getElem inside
    have numbered := mem_numbered_lines_iff.mpr ⟨by omega, standing⟩
    exact List.mem_map.mpr ⟨_, (shown_iff _).mpr ⟨numbered, by omega, by omega⟩, rfl⟩

theorem is_window_shown_lines (source : Text) (line : Nat) :
    IsWindow source line ((shownLines source line).map (·.2)) where
  increasing := (numbered_lines_increasing source).sublist (List.filter_sublist.map _)
  mem_iff _ := mem_shown_numbers_iff

theorem IsWindow.length_le {numbers : List Nat} (window : IsWindow source line numbers) :
    numbers.length ≤ 7 := by
  -- the numbers are among seven consecutive ones, and none is there twice
  have inside : numbers ⊆ List.range' (line - 3) 7 := by
    intro number member
    have bounds := (window.mem_iff number).mp member
    rw [List.mem_range'_1]
    omega
  have distinct : numbers.Nodup := window.increasing.imp Nat.ne_of_lt
  have shorter := (List.subperm_of_subset distinct inside).length_le
  rwa [List.length_range'] at shorter

theorem length_marked_shown_lines_iff :
    ((shownLines source line).filter (·.2 == line)).length = 1 ↔
      1 ≤ line ∧ line ≤ (Text.lines source).length := by
  constructor
  · intro one
    obtain ⟨entry, whole⟩ := List.length_eq_one_iff.mp one
    have kept : entry ∈ (shownLines source line).filter (·.2 == line) := by
      rw [whole]
      exact List.mem_singleton_self entry
    obtain ⟨shown, same⟩ := List.mem_filter.mp kept
    have member : line ∈ (shownLines source line).map (·.2) :=
      List.mem_map.mpr ⟨entry, shown, eq_of_beq same⟩
    have bounds := mem_shown_numbers_iff.mp member
    omega
  · rintro ⟨positive, high⟩
    have inside : line - 1 < (Text.lines source).length := by omega
    have numbered := mem_numbered_lines_iff.mpr ⟨positive, List.getElem?_eq_getElem inside⟩
    rw [filter_number_shown_lines (mem_shown_lines_self numbered)]
    rfl

theorem exists_refused_line {fault : Fault} (rejected : parse source = .error fault) :
    ∃ text, (text, fault.line) ∈ numberedLines source ∧
      Instruction.ofTokens source fault.line (Token.scan (Text.trim text)) = .error fault := by
  obtain ⟨earlier, ⟨text, number⟩, later, split, -, refused⟩ := map_m_eq_error_iff.mp rejected
  have significant : (text, number) ∈ significantLines source := by
    rw [split]
    exact List.mem_append_right _ List.mem_cons_self
  have number_eq : fault.line = number := line_of_of_tokens_fault refused
  rw [number_eq]
  exact ⟨text, (List.mem_filter.mp significant).1, refused⟩

/-- An excerpt is an exact window. It shows the lines of the source that are at most three away from the
line it is about, each in an entry of its own and in order; so there are seven of them at most, and
one is marked exactly when the source has that line. A fault that shows an excerpt marks in it the line
whose tokens were refused, as it stands in the source. -/
theorem excerpt_shows_window (source : Text) :
    (∀ line, ∃ (numbers : List Nat) (entries : List Text),
      IsWindow source line numbers ∧ List.Forall₂ (IsEntry source line) numbers entries ∧
        excerpt source line = ['\n'].intercalate entries ∧
        ((entries.filter (Text.beginsWith (· == '>'))).length = 1 ↔
          1 ≤ line ∧ line ≤ (Text.lines source).length) ∧
        entries.length ≤ 7) ∧
    ∀ fault, parse source = .error fault →
      (∀ keyword number found, fault ≠ .groupExpected keyword number found) →
      ∃ shown text, fault.excerpt? = some shown ∧ shown ≠ [] ∧ shown = excerpt source fault.line ∧
        markedLines shown =
          ['>' :: List.leftpad 4 ' ' (Nat.toDigits 10 fault.line) ++ [':', ' '] ++ text] ∧
        1 ≤ fault.line ∧ (Text.lines source)[fault.line - 1]? = some text ∧
        Instruction.ofTokens source fault.line (Token.scan (Text.trim text)) = .error fault := by
  constructor
  · intro line
    have window := is_window_shown_lines source line
    refine ⟨_, _, window, ?_, excerpt_eq_intercalate source line, ?_, ?_⟩
    · rw [List.forall₂_map_left_iff, List.forall₂_map_right_iff, List.forall₂_same]
      intro entry shown
      exact is_entry_excerpt_entry (List.mem_filter.mp shown).1
    · rw [filter_marked_shown_lines, List.length_map, length_marked_shown_lines_iff]
    · have shorter := window.length_le
      rwa [List.length_map] at shorter ⊢
  · intro fault rejected other
    obtain ⟨text, numbered, refused⟩ := exists_refused_line rejected
    have shows : fault.excerpt? = some (excerpt source fault.line) := by
      rcases excerpt?_of_of_tokens refused with shows | ⟨keyword, found, same⟩
      · exact shows
      · exact absurd same (other _ _ _)
    have marked := marked_lines_excerpt numbered
    rw [excerptEntry, if_pos rfl] at marked
    refine ⟨_, text, shows, ?_, rfl, marked, (mem_numbered_lines_iff.mp numbered).1,
      (mem_numbered_lines_iff.mp numbered).2, refused⟩
    intro empty
    rw [empty] at marked
    cases marked

/-- A line that holds a tab and ends with a carriage return and a line feed is shown with the tab, as
the second of three entries. -/
theorem excerpt_shows_window_around_unknown_name :
    let source := ['c', 'd', ' ', '/', '\n', '\t', 'f', ' ', '1', '\r', '\n', '#']
    let fault := Fault.unknownOperation ['f'] 2 (excerpt source 2)
    parse source = .error fault ∧ (∀ keyword number found, fault ≠ .groupExpected keyword number found) ∧
      ∃ shown, fault.excerpt? = some shown ∧
        markedLines shown = [['>', ' ', ' ', ' ', '2', ':', ' ', '\t', 'f', ' ', '1']] := by
  intro source fault
  have rejected : parse source = .error fault := by cbv
  have other : ∀ keyword number found, fault ≠ .groupExpected keyword number found := by
    simp [fault]
  obtain ⟨shown, text, shows, -, -, marked, -, standing, -⟩ :=
    (excerpt_shows_window source).2 fault rejected other
  cases standing
  have digits : List.leftpad 4 ' ' (Nat.toDigits 10 2) = [' ', ' ', ' ', '2'] := by cbv
  rw [show fault.line = 2 from rfl, digits] at marked
  exact ⟨rejected, other, shown, shows, marked⟩

end LineScript.Script
