import Mathlib.Algebra.GroupWithZero.Nat
import LineScript.Proofs.Token.Reader

/-!
# Reading by places

The reader can also be told as a cursor: a place in a line that does not change, from which pieces of
the line are cut. A cut outside the line is a fault. The main statement says that no such fault arises,
that the cursor stays in the line, moves with every token and is at the end when there is none, and that
it reads the tokens of the line.
-/

namespace LineScript.Token

set_option autoImplicit false

/-! ## The cursor -/

/-- A cut that does not lie in the line. -/
structure OutsideLine where
  first : Nat
  last : Nat
  deriving DecidableEq, Repr

/-- The token that is read at a place, if there is one, and the place after that. -/
abbrev Reading := Except OutsideLine (Option Token × Nat)

variable {row text rest : Text} {place after : Nat} {c : Char} {accepts : Char → Bool} {token : Token}

/-- The characters of a line from a place up to another one. -/
def cut (row : Text) (first last : Nat) : Except OutsideLine Text :=
  if first ≤ last ∧ last ≤ row.length then .ok ((row.take last).drop first)
  else .error ⟨first, last⟩

/-- Whether a character of a class stands at a place. -/
def standsAt (accepts : Char → Bool) (row : Text) (place : Nat) : Bool := row[place]?.any accepts

theorem lt_length_of_stands_at (stands : standsAt accepts row place = true) :
    place < row.length := by
  apply Decidable.byContradiction
  intro beyond
  rw [standsAt, List.getElem?_eq_none (Nat.not_lt.mp beyond)] at stands
  cases stands

/-- The first place from the given one on at which no character of a class stands. -/
def runEnd (accepts : Char → Bool) (row : Text) (place : Nat) : Nat :=
  if _here : standsAt accepts row place = true then runEnd accepts row (place + 1) else place
termination_by row.length - place
decreasing_by
  have := lt_length_of_stands_at _here
  omega

def readRunAt (accepts : Char → Bool) (row : Text) (place : Nat) :
    Except OutsideLine (Text × Nat) := do
  let last := runEnd accepts row place
  return (← cut row place last, last)

/-- Reads a quoted text. The rest of the line after the opening quote is searched for the closing one. -/
def readQuotedAt (row : Text) (place : Nat) : Reading := do
  let rest ← cut row (place + 1) row.length
  match rest.findIdx? (· == '"') with
  | none => return (none, place)
  | some closing =>
    let last := place + closing + 2
    return (some ⟨.quoted, ← cut row place last⟩, last)

/-- Reads a name behind a mark, which is known to stand at the place. -/
def readNamedAt (kind : TokenKind) (mark row : Text) (place : Nat) : Reading :=
  let start := place + mark.length
  if standsAt isNameChar row start then do
    let (name, last) ← readRunAt isNameChar row start
    return (some ⟨kind, mark ++ name⟩, last)
  else return (none, place)

def readWordAt (row : Text) (place : Nat) : Reading := do
  let (word, last) ← readRunAt isWordChar row place
  return (some ⟨.word, word⟩, last)

/-- Reads the token that begins with a character at its place. -/
def readAt (row : Text) (place : Nat) (c : Char) : Reading :=
  if c = '"' then readQuotedAt row place
  else if c = '$' then readNamedAt .variable ['$'] row place
  else if c = '[' then
    if row[place + 1]? = some ']' then readNamedAt .group ['[', ']'] row place
    else return (none, place)
  else if isWordChar c then readWordAt row place
  else return (none, place)

/-! ## The readers -/

/-- What a reader that starts at a place comes to, when `found` is the token at the start of the text
there with the rest behind it: the place moves by the length of the token, and not at all when there is
none. -/
inductive Reads (row : Text) (place : Nat) : Option (Token × Text) → Reading → Prop where
  | nothing : Reads row place none (.ok (none, place))
  | token (token : Token) (within : place + token.text.length ≤ row.length) :
    Reads row place (some (token, row.drop (place + token.text.length)))
      (.ok (some token, place + token.text.length))

theorem begins_with_drop : Text.beginsWith accepts (row.drop place) = standsAt accepts row place := by
  rw [Text.beginsWith, List.head?_drop, standsAt]

theorem drop_eq_cons (here : row[place]? = some c) : row.drop place = c :: row.drop (place + 1) := by
  obtain ⟨within, rfl⟩ := List.getElem?_eq_some_iff.mp here
  exact List.drop_eq_getElem_cons within

theorem le_length_of_drop_eq (within : place ≤ row.length) (split : row.drop place = text ++ rest) :
    place + text.length ≤ row.length := by
  have length_eq := congrArg List.length split
  rw [List.length_drop, List.length_append] at length_eq
  omega

theorem drop_behind (split : row.drop place = text ++ rest) :
    row.drop (place + text.length) = rest := by
  rw [← List.drop_drop, split, List.drop_left]

theorem cut_eq_ok (within : place ≤ row.length) (split : row.drop place = text ++ rest) :
    cut row place (place + text.length) = .ok text := by
  rw [cut, if_pos ⟨Nat.le_add_right _ _, le_length_of_drop_eq within split⟩, List.drop_take, split,
    Nat.add_sub_cancel_left, List.take_left]

theorem Reads.of_drop_eq (token : Token) (within : place ≤ row.length)
    (split : row.drop place = token.text ++ rest) :
    Reads row place (some (token, rest)) (.ok (some token, place + token.text.length)) := by
  rw [← drop_behind split]
  exact .token token (le_length_of_drop_eq within split)

theorem run_end_eq (accepts : Char → Bool) (row : Text) (place : Nat) :
    runEnd accepts row place = place + ((row.drop place).takeWhile accepts).length := by
  induction place using runEnd.induct accepts row with
  | case1 place here ih =>
      obtain ⟨c, here_eq, accepted⟩ := (Option.any_eq_true _ _).mp here
      rw [runEnd, dif_pos here, ih, drop_eq_cons here_eq, List.takeWhile_cons_of_pos accepted,
        List.length_cons]
      omega
  | case2 place other =>
      have none : (row.drop place).takeWhile accepts = [] := by
        rw [Text.take_while_eq_nil_iff_begins_with, begins_with_drop]
        simpa using other
      rw [runEnd, dif_neg other, none]
      rfl

theorem read_run_at_eq (within : place ≤ row.length) :
    readRunAt accepts row place =
      .ok ((row.drop place).takeWhile accepts,
        place + ((row.drop place).takeWhile accepts).length) := by
  have split := (List.takeWhile_append_dropWhile (p := accepts) (l := row.drop place)).symm
  rw [readRunAt, run_end_eq, cut_eq_ok within split]
  rfl

theorem split_of_find_idx?_eq_some {mark : Char} {index : Nat}
    (searched : text.findIdx? (· == mark) = some index) :
    ∃ inside behind, text = inside ++ mark :: behind ∧ inside.length = index ∧ mark ∉ inside := by
  induction text generalizing index with
  | nil => simp at searched
  | cons c rest ih =>
      rw [List.findIdx?_cons] at searched
      by_cases same : c = mark
      · subst same
        have index_eq : 0 = index := by simpa using searched
        exact ⟨[], rest, rfl, index_eq, List.not_mem_nil⟩
      · have later : ∃ before, rest.findIdx? (· == mark) = some before ∧ before + 1 = index := by
          simpa [same] using searched
        obtain ⟨before, searchedRest, rfl⟩ := later
        obtain ⟨inside, behind, rfl, rfl, outside⟩ := ih searchedRest
        refine ⟨c :: inside, behind, rfl, rfl, ?_⟩
        rw [List.mem_cons, not_or]
        exact ⟨fun marked => same marked.symm, outside⟩

theorem read_quoted_at_reads (here : row[place]? = some '"') :
    Reads row place (readQuoted? (row.drop (place + 1))) (readQuotedAt row place) := by
  have within : place < row.length := (List.getElem?_eq_some_iff.mp here).1
  have rest_eq : cut row (place + 1) row.length = .ok (row.drop (place + 1)) := by
    rw [cut, if_pos ⟨within, Nat.le_refl _⟩, List.take_length]
  rw [readQuotedAt, rest_eq]
  change Reads row place _ (match (row.drop (place + 1)).findIdx? (· == '"') with
    | none => _
    | some closing => _)
  cases searched : (row.drop (place + 1)).findIdx? (· == '"') with
  | none =>
      have unclosed : '"' ∉ row.drop (place + 1) := by
        intro member
        simpa using List.findIdx?_eq_none_iff.mp searched '"' member
      rw [read_quoted?_eq_none_iff.mpr unclosed]
      exact .nothing
  | some closing =>
      obtain ⟨inside, behind, rest_split, rfl, unquoted⟩ := split_of_find_idx?_eq_some searched
      rw [read_quoted?_eq_some_iff.mpr ⟨inside, unquoted, rfl, rest_split⟩]
      have split : row.drop place = ('"' :: inside ++ ['"']) ++ behind := by
        rw [drop_eq_cons here, rest_split]
        simp
      have last_eq : place + inside.length + 2 = place + ('"' :: inside ++ ['"']).length := by
        simp only [List.length_append, List.length_cons, List.length_nil]
        omega
      dsimp only
      rw [last_eq, cut_eq_ok (Nat.le_of_lt within) split]
      exact Reads.of_drop_eq ⟨.quoted, '"' :: inside ++ ['"']⟩ (Nat.le_of_lt within) split

theorem read_named_at_reads (kind : TokenKind) {mark afterMark : Text} (within : place ≤ row.length)
    (marked : row.drop place = mark ++ afterMark) :
    Reads row place (readNamed? kind mark afterMark) (readNamedAt kind mark row place) := by
  have start_eq := drop_behind marked
  unfold readNamed? readNamedAt
  dsimp only
  rw [← begins_with_drop, read_run_at_eq (le_length_of_drop_eq within marked), start_eq]
  have whole := List.takeWhile_append_dropWhile (p := isNameChar) (l := afterMark)
  cases begins : Text.beginsWith isNameChar afterMark with
  | false =>
      rw [Text.take_while_eq_nil_iff_begins_with.mpr begins]
      exact .nothing
  | true =>
      have nonempty : afterMark.takeWhile isNameChar ≠ [] := by
        rw [Ne, Text.take_while_eq_nil_iff_begins_with, begins]
        exact nofun
      split
      · exact absurd (by assumption) nonempty
      · rw [← whole, ← List.append_assoc] at marked
        have reads := Reads.of_drop_eq ⟨kind, mark ++ afterMark.takeWhile isNameChar⟩ within marked
        rw [List.length_append, ← Nat.add_assoc] at reads
        exact reads

theorem read_word_at_reads (within : place ≤ row.length)
    (begins : Text.beginsWith isWordChar (row.drop place) = true) :
    Reads row place (readWord? (row.drop place)) (readWordAt row place) := by
  have nonempty : (row.drop place).takeWhile isWordChar ≠ [] := by
    rw [Ne, Text.take_while_eq_nil_iff_begins_with, begins]
    exact nofun
  unfold readWord? readWordAt
  rw [read_run_at_eq within]
  split
  · exact absurd (by assumption) nonempty
  · have split := (List.takeWhile_append_dropWhile (p := isWordChar) (l := row.drop place)).symm
    exact Reads.of_drop_eq ⟨.word, (row.drop place).takeWhile isWordChar⟩ within split

/-- At every character of a line the reader takes the token that begins there, or stays in its place. -/
theorem read_at_reads (here : row[place]? = some c) :
    Reads row place (read? (row.drop place)) (readAt row place c) := by
  have within : place ≤ row.length := Nat.le_of_lt (List.getElem?_eq_some_iff.mp here).1
  have text_eq := drop_eq_cons here
  rw [readAt]
  split
  · rename_i quote
    subst quote
    rw [text_eq]
    exact read_quoted_at_reads here
  rename_i quote
  split
  · rename_i sentinel
    subst sentinel
    rw [text_eq]
    exact read_named_at_reads .variable within text_eq
  rename_i sentinel
  split
  · rename_i bracket
    subst bracket
    split
    · rename_i closed
      rw [drop_eq_cons closed] at text_eq
      rw [text_eq]
      exact read_named_at_reads .group within text_eq
    · rename_i unclosed
      have droppable : Droppable '[' (row.drop (place + 1)) := by
        refine ⟨by decide, by simp, ?_, by simp⟩
        intro _ afterPair rest_eq
        rw [← List.head?_drop, rest_eq] at unclosed
        exact absurd rfl unclosed
      rw [text_eq, read?_eq_none_iff.mpr droppable]
      exact .nothing
  rename_i bracket
  rw [text_eq, read?_eq_read_word? quote sentinel (fun same => absurd same bracket), ← text_eq]
  split
  · rename_i word
    apply read_word_at_reads within
    rw [text_eq]
    exact word
  · rename_i other
    have ends : Text.beginsWith isWordChar (row.drop place) = false := by
      rw [text_eq]
      simpa using other
    rw [read_word?_eq_none_iff.mpr ends]
    exact .nothing

/-! ## From token to token -/

theorem after_eq_of_read_at (here : row[place]? = some c)
    (nothing : readAt row place c = .ok (none, after)) : after = place := by
  have reads := read_at_reads here
  rw [nothing] at reads
  generalize read? (row.drop place) = found at reads
  cases reads
  rfl

/-- The next token from a place on. A character before which no reader finds a token is passed over. -/
def nextAt (row : Text) (place : Nat) : Reading :=
  match _here : row[place]? with
  | none => .ok (none, place)
  | some c =>
    match _read : readAt row place c with
    | .error fault => .error fault
    | .ok (some token, after) => .ok (some token, after)
    | .ok (none, after) => nextAt row (after + 1)
termination_by row.length - place
decreasing_by
  have := after_eq_of_read_at _here _read
  have := (List.getElem?_eq_some_iff.mp _here).1
  omega

theorem next_at_eq_of_end (beyond : row[place]? = none) : nextAt row place = .ok (none, place) := by
  rw [nextAt]
  split
  · rfl
  · simp_all

theorem next_at_eq_of_token (here : row[place]? = some c)
    (taken : readAt row place c = .ok (some token, after)) :
    nextAt row place = .ok (some token, after) := by
  rw [nextAt]
  grind

theorem next_at_eq_of_nothing (here : row[place]? = some c)
    (nothing : readAt row place c = .ok (none, after)) :
    nextAt row place = nextAt row (place + 1) := by
  rw [nextAt]
  grind [after_eq_of_read_at here nothing]

/-- What a call for the next token comes to, when `found` is the next token of the text at the place with
the rest behind it. Characters before the token may be passed over, and without a token they all are. -/
inductive Advances (row : Text) (place : Nat) : Option (Token × Text) → Reading → Prop where
  | exhausted : Advances row place none (.ok (none, row.length))
  | token (token : Token) (after : Nat) (nonempty : token.text ≠ [])
    (further : place + token.text.length ≤ after) (within : after ≤ row.length) :
    Advances row place (some (token, row.drop after)) (.ok (some token, after))

theorem Advances.of_later {found : Option (Token × Text)} {reading : Reading}
    (advances : Advances row (place + 1) found reading) : Advances row place found reading := by
  cases advances with
  | exhausted => exact .exhausted
  | token token after nonempty further within =>
      exact .token token after nonempty (by omega) within

/-- The cursor reads what the reader of texts reads from the text at its place. -/
theorem next_at_advances {place : Nat} (within : place ≤ row.length) :
    Advances row place (next? (row.drop place)) (nextAt row place) := by
  cases here : row[place]? with
  | none =>
      have at_end : place = row.length :=
        Nat.le_antisymm within (List.getElem?_eq_none_iff.mp here)
      rw [next_at_eq_of_end here, at_end, List.drop_length]
      exact .exhausted
  | some c =>
      have inside : place < row.length := (List.getElem?_eq_some_iff.mp here).1
      have reads := read_at_reads here
      generalize found_eq : read? (row.drop place) = found at reads
      generalize reading_eq : readAt row place c = reading at reads
      rw [drop_eq_cons here] at found_eq ⊢
      rw [next?, found_eq]
      cases reads with
      | nothing =>
          rw [next_at_eq_of_nothing here reading_eq]
          exact (next_at_advances inside).of_later
      | token token ends =>
          have nonempty := (read?_eq_some_iff.mp found_eq).1.text_ne_nil
          rw [next_at_eq_of_token here reading_eq]
          exact .token token _ nonempty (Nat.le_refl _) ends
termination_by row.length - place

theorem bounds_of_next_at (called : nextAt row place = .ok (some token, after)) :
    token.text ≠ [] ∧ place + token.text.length ≤ after ∧ after ≤ row.length := by
  by_cases within : place ≤ row.length
  · have advances := next_at_advances within
    rw [called] at advances
    generalize next? (row.drop place) = found at advances
    cases advances with
    | token token after nonempty further ends => exact ⟨nonempty, further, ends⟩
  · rw [next_at_eq_of_end (List.getElem?_eq_none (by omega))] at called
    cases called

/-- The tokens that calls for the next token give from a place on, until there is none. -/
def tokensFrom (row : Text) (place : Nat) : Except OutsideLine (List Token) :=
  match _called : nextAt row place with
  | .error fault => .error fault
  | .ok (none, _) => .ok []
  | .ok (some token, after) => (tokensFrom row after).map (token :: ·)
termination_by row.length - place
decreasing_by
  obtain ⟨nonempty, further, within⟩ := bounds_of_next_at _called
  have := List.length_pos_iff.mpr nonempty
  omega

theorem tokens_from_eq_scan {place : Nat} (within : place ≤ row.length) :
    tokensFrom row place = .ok (scan (row.drop place)) := by
  have advances := next_at_advances within
  generalize found_eq : next? (row.drop place) = found at advances
  rw [tokensFrom]
  split
  · rename_i fault called
    rw [called] at advances
    cases advances
  · rename_i after called
    rw [called] at advances
    cases advances
    rw [scan_eq_nil found_eq]
  · rename_i token after called
    obtain ⟨nonempty, further, ends⟩ := bounds_of_next_at called
    have positive := List.length_pos_iff.mpr nonempty
    rw [called] at advances
    cases advances
    rw [scan_eq_cons found_eq, tokens_from_eq_scan ends]
    rfl
termination_by row.length - place

/-- The tokens of a text, none of which is empty, are together no longer than the text. -/
theorem length_scan_le (text : Text) :
    (scan text).length ≤ ((scan text).map (·.text.length)).sum ∧
      ((scan text).map (·.text.length)).sum ≤ text.length := by
  have advances := next_at_advances (Nat.zero_le text.length)
  rw [List.drop_zero] at advances
  generalize found_eq : next? text = found at advances
  generalize nextAt text 0 = reading at advances
  cases advances with
  | exhausted =>
      rw [scan_eq_nil found_eq]
      exact ⟨Nat.le_refl _, Nat.zero_le _⟩
  | token token after nonempty further within =>
      have shorter := next?_shorter found_eq
      have positive := List.length_pos_iff.mpr nonempty
      have later := length_scan_le (text.drop after)
      rw [List.length_drop] at later
      rw [scan_eq_cons found_eq, List.map_cons, List.sum_cons, List.length_cons]
      omega
termination_by text.length

/-- The places that the cursor comes to by calls for the next token. -/
inductive IsReached (row : Text) : Nat → Prop where
  | start : IsReached row 0
  | call {place after : Nat} {found : Option Token} (reached : IsReached row place)
    (called : nextAt row place = .ok (found, after)) : IsReached row after

theorem exists_next_at (within : place ≤ row.length) :
    ∃ found after, nextAt row place = .ok (found, after) ∧ after ≤ row.length ∧
      (found = none → after = row.length) ∧
      ∀ token, found = some token → token.text ≠ [] ∧ place + token.text.length ≤ after := by
  have advances := next_at_advances within
  generalize next? (row.drop place) = next at advances
  generalize nextAt row place = reading at advances
  cases advances with
  | exhausted => exact ⟨none, _, rfl, Nat.le_refl _, fun _ => rfl, nofun⟩
  | token token after nonempty further ends =>
      refine ⟨some token, after, rfl, ends, nofun, ?_⟩
      intro _ same
      cases same
      exact ⟨nonempty, further⟩

theorem IsReached.le_length (reached : IsReached row place) : place ≤ row.length := by
  induction reached with
  | start => exact Nat.zero_le _
  | call _ called within =>
      obtain ⟨found, after, called_eq, ends, -⟩ := exists_next_at within
      cases called.symm.trans called_eq
      exact ends

theorem exists_read_at (here : row[place]? = some c) :
    ∃ found after, readAt row place c = .ok (found, after) ∧ (found = none → after = place) ∧
      ∀ token, found = some token →
        after = place + token.text.length ∧ after ≤ row.length := by
  have reads := read_at_reads here
  generalize read? (row.drop place) = first at reads
  generalize readAt row place c = reading at reads
  cases reads with
  | nothing => exact ⟨none, place, rfl, fun _ => rfl, nofun⟩
  | token token within =>
      refine ⟨some token, _, rfl, nofun, ?_⟩
      intro _ same
      cases same
      exact ⟨rfl, within⟩

/-- The cursor does not leave the line. Each call for the next token ends without a cut outside the line;
a token moves the cursor by its length at least, and without one the cursor is at the end. A reader that
finds no token at a character leaves the cursor there. So the calls come to an end and give the tokens of
the line, which are together no longer than the line. -/
theorem cursor_stays_inside_and_advances (row : Text) :
    (∀ place, IsReached row place → place ≤ row.length ∧
      ∃ found after, nextAt row place = .ok (found, after) ∧ after ≤ row.length ∧
        (found = none → after = row.length) ∧
        ∀ token, found = some token → token.text ≠ [] ∧ place + token.text.length ≤ after) ∧
    (∀ place c, row[place]? = some c → ∃ found after, readAt row place c = .ok (found, after) ∧
      (found = none → after = place) ∧
      ∀ token, found = some token → after = place + token.text.length ∧ after ≤ row.length) ∧
    tokensFrom row 0 = .ok (scan row) ∧ (scan row).length ≤ row.length ∧
    ((scan row).map (·.text.length)).sum ≤ row.length := by
  obtain ⟨fewer, shorter⟩ := length_scan_le row
  refine ⟨?_, fun place c here => exists_read_at here, ?_, Nat.le_trans fewer shorter, shorter⟩
  · intro place reached
    exact ⟨reached.le_length, exists_next_at reached.le_length⟩
  · exact tokens_from_eq_scan (Nat.zero_le _)

end LineScript.Token
