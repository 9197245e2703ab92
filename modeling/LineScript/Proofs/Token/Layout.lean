import LineScript.Proofs.Token.Reader

/-!
# The layout of a line

A layout cuts a line into tokens and the gaps around them. It is lexical when every token has one of
the four shapes and is as long as it can be, and when every character of a gap is one that begins no
token in the line. The main statement says that each line has exactly one lexical layout, that its
tokens are those the reader finds, and that its quoted tokens are the spans between the first and the
second quote of the line, the third and the fourth, and so on.
-/

namespace LineScript.Token

set_option autoImplicit false

/-- A line cut into tokens and gaps, a gap before each token and one after the last. -/
inductive Layout where
  | last (gap : Text)
  | cons (gap : Text) (token : Token) (others : Layout)

/-- No token begins at any character of a gap that the given text follows. -/
def IsGap : Text → Text → Prop
  | [], _ => True
  | c :: gap, rest => Droppable c (gap ++ rest) ∧ IsGap gap rest

namespace Layout

/-- The line that is cut. -/
def text : Layout → Text
  | .last gap => gap
  | .cons gap token others => gap ++ (token.text ++ others.text)

/-- The tokens of a layout, in order. -/
def tokens : Layout → List Token
  | .last _ => []
  | .cons _ token others => token :: others.tokens

/-- Tokens have their shapes and their full lengths, and nothing that could begin a token stands in a
gap. -/
def IsLexical : Layout → Prop
  | .last gap => IsGap gap []
  | .cons gap token others =>
      IsGap gap (token.text ++ others.text) ∧ HasShape token ∧ token.EndsBefore others.text ∧
        others.IsLexical

/-- The places of the first and the last character of each quoted token, when the line begins at the
place `start`. -/
def quotedSpans (start : Nat) : Layout → List (Nat × Nat)
  | .last _ => []
  | .cons gap token others =>
      let first := start + gap.length
      let next := first + token.text.length
      match token.kind with
      | .quoted => (first, next - 1) :: others.quotedSpans next
      | _ => others.quotedSpans next

end Layout

/-- The places of the quotes of a text that begins at the place `start`. -/
def quotePlaces (start : Nat) : Text → List Nat
  | [] => []
  | c :: rest => if c = '"' then start :: quotePlaces (start + 1) rest else quotePlaces (start + 1) rest

/-- The first place with the second, the third with the fourth, and so on; an odd one is left out. -/
def pairs : List Nat → List (Nat × Nat)
  | first :: second :: others => (first, second) :: pairs others
  | _ => []

theorem next?_of_droppable {c : Char} {rest : Text} (droppable : Droppable c rest) :
    next? (c :: rest) = next? rest := by
  rw [next?, read?_eq_none_iff.mpr droppable]

theorem next?_gap {gap rest : Text} (skipped : IsGap gap rest) :
    next? (gap ++ rest) = next? rest := by
  induction gap with
  | nil => rfl
  | cons c gap ih =>
      rw [List.cons_append, next?_of_droppable skipped.1]
      exact ih skipped.2

theorem next?_token {token : Token} {rest : Text} (shape : HasShape token)
    (ends : token.EndsBefore rest) : next? (token.text ++ rest) = some (token, rest) := by
  have found := read?_eq_some_iff.mpr ⟨shape, ends, rfl⟩
  obtain ⟨c, others, spelled⟩ := List.exists_cons_of_ne_nil shape.text_ne_nil
  rw [spelled, List.cons_append] at found ⊢
  rw [next?, found]

theorem scan_congr {first second : Text} (same : next? first = next? second) :
    scan first = scan second := by
  cases found : next? second with
  | none => rw [scan_eq_nil (same.trans found), scan_eq_nil found]
  | some pair => rw [scan_eq_cons (same.trans found), scan_eq_cons found]

theorem scan_gap {gap rest : Text} (skipped : IsGap gap rest) : scan (gap ++ rest) = scan rest :=
  scan_congr (next?_gap skipped)

theorem scan_token {token : Token} {rest : Text} (shape : HasShape token)
    (ends : token.EndsBefore rest) : scan (token.text ++ rest) = token :: scan rest :=
  scan_eq_cons (next?_token shape ends)

theorem scan_eq_nil_of_gap {gap : Text} (skipped : IsGap gap []) : scan gap = [] := by
  have same := scan_gap skipped
  rw [List.append_nil] at same
  rw [same]
  exact scan_eq_nil rfl

theorem gap_or_first_token (text : Text) :
    IsGap text [] ∨
      ∃ gap token rest, text = gap ++ (token.text ++ rest) ∧ IsGap gap (token.text ++ rest) ∧
        HasShape token ∧ token.EndsBefore rest := by
  induction text with
  | nil => exact Or.inl trivial
  | cons c rest ih =>
      cases here : read? (c :: rest) with
      | some found =>
          obtain ⟨shape, ends, whole⟩ := read?_eq_some_iff.mp here
          exact Or.inr ⟨[], found.1, found.2, whole, trivial, shape, ends⟩
      | none =>
          have droppable := read?_eq_none_iff.mp here
          rcases ih with skipped | ⟨gap, token, after, rfl, skipped, shape, ends⟩
          · exact Or.inl ⟨by rwa [List.append_nil], skipped⟩
          · exact Or.inr ⟨c :: gap, token, after, rfl, ⟨droppable, skipped⟩, shape, ends⟩

namespace Layout

theorem tokens_eq_scan {layout : Layout} (lexical : layout.IsLexical) :
    layout.tokens = scan layout.text := by
  induction layout with
  | last gap => exact (scan_eq_nil_of_gap lexical).symm
  | cons gap token others ih =>
      obtain ⟨skipped, shape, ends, lexicalOthers⟩ := lexical
      rw [tokens, text, scan_gap skipped, scan_token shape ends, ih lexicalOthers]

/-- A line has at most one lexical layout: the first token and what follows it are determined by the
line, hence so is the gap before it. -/
theorem IsLexical.unique {first second : Layout} (lexicalFirst : first.IsLexical)
    (lexicalSecond : second.IsLexical) (same : first.text = second.text) : first = second := by
  induction first generalizing second with
  | last gap =>
      cases second with
      | last other => exact congrArg Layout.last same
      | cons other token others =>
          have none := tokens_eq_scan lexicalFirst
          have some := tokens_eq_scan lexicalSecond
          rw [same, ← some] at none
          cases none
  | cons gap token others ih =>
      obtain ⟨skipped, shape, ends, lexicalOthers⟩ := lexicalFirst
      cases second with
      | last other =>
          have found : next? (gap ++ (token.text ++ others.text)) = some (token, others.text) :=
            (next?_gap skipped).trans (next?_token shape ends)
          have exhausted : next? other = none := by
            have gone := next?_gap lexicalSecond
            rwa [List.append_nil] at gone
          rw [show gap ++ (token.text ++ others.text) = other from same, exhausted] at found
          cases found
      | cons otherGap otherToken otherOthers =>
          obtain ⟨otherSkipped, otherShape, otherEnds, otherLexical⟩ := lexicalSecond
          have wholes : gap ++ (token.text ++ others.text) =
              otherGap ++ (otherToken.text ++ otherOthers.text) := same
          have found := (next?_gap skipped).trans (next?_token shape ends)
          rw [wholes, next?_gap otherSkipped, next?_token otherShape otherEnds] at found
          obtain ⟨sameToken, sameRest⟩ := Prod.mk.inj (Option.some.inj found)
          subst sameToken
          have sameOthers := ih lexicalOthers otherLexical sameRest.symm
          subst sameOthers
          rw [List.append_cancel_right wholes]

/-- Every line has a lexical layout. The induction is on the length of the line, since what follows a
token is shorter but not a tail of the line. -/
theorem exists_is_lexical (line : Text) : ∃ layout : Layout, layout.text = line ∧ layout.IsLexical := by
  rcases gap_or_first_token line with skipped | ⟨gap, token, rest, split, skipped, shape, ends⟩
  · exact ⟨.last line, rfl, skipped⟩
  · have shorter : rest.length < line.length := by
      have positive := List.length_pos_iff.mpr shape.text_ne_nil
      rw [split, List.length_append, List.length_append]
      omega
    obtain ⟨others, rfl, lexical⟩ := exists_is_lexical rest
    exact ⟨.cons gap token others, split.symm, skipped, shape, ends, lexical⟩
termination_by line.length

end Layout

theorem quote_places_append (start : Nat) (first second : Text) :
    quotePlaces start (first ++ second) =
      quotePlaces start first ++ quotePlaces (start + first.length) second := by
  induction first generalizing start with
  | nil => rfl
  | cons c rest ih =>
      have next : start + (rest.length + 1) = start + 1 + rest.length := by omega
      rw [List.cons_append, quotePlaces, quotePlaces, ih, List.length_cons, next]
      split <;> rfl

theorem quote_places_eq_nil {text : Text} (start : Nat) (unquoted : '"' ∉ text) :
    quotePlaces start text = [] := by
  induction text generalizing start with
  | nil => rfl
  | cons c rest ih =>
      rw [List.mem_cons, not_or] at unquoted
      rw [quotePlaces, if_neg (fun same => unquoted.1 same.symm)]
      exact ih _ unquoted.2

theorem quote_places_quoted (start : Nat) {inside : Text} (unquoted : '"' ∉ inside) :
    quotePlaces start ('"' :: inside ++ ['"']) = [start, start + inside.length + 1] := by
  have next : start + 1 + inside.length = start + inside.length + 1 := by omega
  rw [List.cons_append, quotePlaces, if_pos rfl, quote_places_append,
    quote_places_eq_nil _ unquoted, next]
  rfl

theorem quote_places_gap {gap rest : Text} (start : Nat) (skipped : IsGap gap rest) :
    quotePlaces start gap = [] ∨ '"' ∉ rest ∧ ∃ place, quotePlaces start gap = [place] := by
  induction gap generalizing start with
  | nil => exact Or.inl rfl
  | cons c gap ih =>
      rw [quotePlaces]
      by_cases quote : c = '"'
      · have unquoted := skipped.1.quote quote
        rw [List.mem_append, not_or] at unquoted
        rw [if_pos quote, quote_places_eq_nil _ unquoted.1]
        exact Or.inr ⟨unquoted.2, start, rfl⟩
      · rw [if_neg quote]
        exact ih _ skipped.2

namespace Layout

theorem quoted_spans_eq_nil {layout : Layout} (start : Nat) (lexical : layout.IsLexical)
    (unquoted : '"' ∉ layout.text) : layout.quotedSpans start = [] := by
  induction layout generalizing start with
  | last gap => rfl
  | cons gap token others ih =>
      obtain ⟨-, shape, -, lexicalOthers⟩ := lexical
      rw [text, List.mem_append, List.mem_append, not_or, not_or] at unquoted
      obtain ⟨-, unquotedToken, unquotedOthers⟩ := unquoted
      rw [quotedSpans]
      split
      · cases shape with
        | quoted inside inner => simp at unquotedToken
        | _ => simp_all
      · exact ih _ lexicalOthers unquotedOthers

theorem quoted_spans_eq_pairs {layout : Layout} (start : Nat) (lexical : layout.IsLexical) :
    layout.quotedSpans start = pairs (quotePlaces start layout.text) := by
  induction layout generalizing start with
  | last gap =>
      rcases quote_places_gap start lexical with none | ⟨-, place, one⟩
      · rw [text, none]
        rfl
      · rw [text, one]
        rfl
  | cons gap token others ih =>
      obtain ⟨skipped, shape, -, lexicalOthers⟩ := lexical
      rw [text, quote_places_append, quote_places_append]
      rcases quote_places_gap start skipped with none | ⟨unquoted, place, one⟩
      · rw [none, List.nil_append, quotedSpans, ih _ lexicalOthers]
        split
        · rename_i kind
          cases shape with
          | quoted inside inner =>
              have closing : start + gap.length + ('"' :: inside ++ ['"']).length - 1 =
                  start + gap.length + inside.length + 1 := by
                simp only [List.length_append, List.length_cons, List.length_nil]
                omega
              rw [quote_places_quoted _ inner, closing]
              rfl
          | _ => cases kind
        · rename_i other
          rw [quote_places_eq_nil _ (shape.quote_not_mem other), List.nil_append]
      · rw [List.mem_append, not_or] at unquoted
        rw [one, quote_places_eq_nil _ unquoted.1, quote_places_eq_nil _ unquoted.2, quotedSpans,
          quoted_spans_eq_nil _ lexicalOthers unquoted.2]
        split
        · cases shape with
          | quoted inside inner => simp at unquoted
          | _ => simp_all
        · rfl

end Layout

/-- Each line has exactly one lexical layout. Its tokens are those that the reader finds, and its
quoted tokens reach from an odd quote of the line to the even one after it. -/
theorem scan_has_unique_layout (line : Text) :
    ∃ layout : Layout, layout.text = line ∧ layout.IsLexical ∧ layout.tokens = scan line ∧
      (∀ other : Layout, other.text = line → other.IsLexical → other = layout) ∧
      layout.quotedSpans 0 = pairs (quotePlaces 0 line) := by
  obtain ⟨layout, rfl, lexical⟩ := Layout.exists_is_lexical line
  refine ⟨layout, rfl, lexical, Layout.tokens_eq_scan lexical, ?_,
    Layout.quoted_spans_eq_pairs 0 lexical⟩
  intro other same lexicalOther
  exact lexicalOther.unique lexical same

end LineScript.Token
