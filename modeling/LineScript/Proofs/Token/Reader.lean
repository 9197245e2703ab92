import LineScript.Proofs.Text.Runs
import LineScript.Token.Lexer

/-!
# What a reader takes

The four shapes of a token, what may follow a token of each shape, and the characters before which no
token begins. A token is read at the start of a text exactly when it has one of the shapes and ends
where it has to; none is read exactly when the first character of the text is one to be dropped.
-/

namespace LineScript

set_option autoImplicit false

namespace Token

/-- The texts that each kind of token can have. -/
inductive HasShape : Token → Prop where
  | quoted (inside : Text) (unquoted : '"' ∉ inside) :
      HasShape ⟨.quoted, '"' :: inside ++ ['"']⟩
  | reference (name : Text) (nonempty : name ≠ []) (spelled : ∀ c ∈ name, isNameChar c = true) :
      HasShape ⟨.variable, '$' :: name⟩
  | groupMark (name : Text) (nonempty : name ≠ []) (spelled : ∀ c ∈ name, isNameChar c = true) :
      HasShape ⟨.group, '[' :: ']' :: name⟩
  | word (text : Text) (nonempty : text ≠ []) (spelled : ∀ c ∈ text, isWordChar c = true) :
      HasShape ⟨.word, text⟩

/-- A token ends before a text when no character of the text prolongs it. -/
def EndsBefore (token : Token) (rest : Text) : Prop :=
  match token.kind with
  | .quoted => True
  | .variable | .group => Text.beginsWith isNameChar rest = false
  | .word => Text.beginsWith isWordChar rest = false

/-- No token begins with a character that is followed by the given text: the character belongs to no
word, a `$` or a bracket pair has no name after it, and a quote is not closed. -/
structure Droppable (c : Char) (rest : Text) : Prop where
  notWord : isWordChar c = false
  sentinel : c = '$' → Text.beginsWith isNameChar rest = false
  bracket : c = '[' → ∀ afterPair, rest = ']' :: afterPair →
    Text.beginsWith isNameChar afterPair = false
  quote : c = '"' → '"' ∉ rest

theorem not_is_name_char_of_not_is_word_char {c : Char} (other : isWordChar c = false) :
    isNameChar c = false := by
  cases name : isNameChar c with
  | false => rfl
  | true =>
      rw [is_word_char_of_is_name_char name] at other
      cases other

theorem not_is_word_char_of_is_white_space {c : Char} (blank : Text.isWhiteSpace c = true) :
    isWordChar c = false := by
  have all : ∀ code ∈ Text.whiteSpaceCodes, isWordChar (Char.ofNat code) = false := by
    decide +kernel
  have here := all c.toNat (Text.to_nat_mem_white_space_codes blank)
  rwa [Char.ofNat_toNat] at here

theorem HasShape.text_ne_nil {token : Token} (shape : HasShape token) : token.text ≠ [] := by
  cases shape with
  | word text nonempty spelled => exact nonempty
  | quoted inside unquoted => simp
  | reference name nonempty spelled => simp
  | groupMark name nonempty spelled => simp

private theorem quote_not_mem_of_spelled {accepts : Char → Bool} {text : Text}
    (refused : accepts '"' = false) (spelled : ∀ c ∈ text, accepts c = true) : '"' ∉ text := by
  intro member
  rw [spelled '"' member] at refused
  cases refused

theorem HasShape.quote_not_mem {token : Token} (shape : HasShape token)
    (other : token.kind ≠ .quoted) : '"' ∉ token.text := by
  cases shape with
  | quoted inside unquoted => exact absurd rfl other
  | reference name nonempty spelled =>
      simpa using quote_not_mem_of_spelled (by decide) spelled
  | groupMark name nonempty spelled =>
      simpa using quote_not_mem_of_spelled (by decide) spelled
  | word text nonempty spelled => exact quote_not_mem_of_spelled (by decide) spelled

theorem HasShape.quote_not_mem_inside {inside : Text}
    (shape : HasShape ⟨.quoted, '"' :: inside ++ ['"']⟩) : '"' ∉ inside := by
  generalize whole : (⟨.quoted, '"' :: inside ++ ['"']⟩ : Token) = token at shape
  cases shape with
  | quoted other unquoted =>
      have same : inside = other := by simpa using whole
      rwa [same]
  | _ => simp at whole

theorem read_quoted?_eq_some_iff {text rest : Text} {token : Token} :
    readQuoted? text = some (token, rest) ↔
      ∃ inside, '"' ∉ inside ∧ token = ⟨.quoted, '"' :: inside ++ ['"']⟩ ∧
        text = inside ++ '"' :: rest := by
  constructor
  · intro found
    unfold readQuoted? at found
    split at found
    · cases found
    · rename_i quote after dropped
      cases found
      obtain ⟨inside, whole, stop⟩ := Text.take_while_drop_while_iff.mp ⟨rfl, dropped⟩
      have closes : quote = '"' := by simpa using stop
      subst closes
      refine ⟨_, ?_, rfl, whole⟩
      intro member
      have different := inside '"' member
      simp at different
  · rintro ⟨inside, unquoted, rfl, split⟩
    have outside : ∀ c ∈ inside, (c != '"') = true := by
      intro c member
      have different : c ≠ '"' := fun same => unquoted (same ▸ member)
      simpa using different
    obtain ⟨taken, dropped⟩ := Text.take_while_drop_while_iff.mpr ⟨outside, split, rfl⟩
    simp [readQuoted?, taken, dropped]

theorem read_quoted?_eq_none_iff {text : Text} : readQuoted? text = none ↔ '"' ∉ text := by
  constructor
  · intro missing member
    obtain ⟨inside, rest, split, unquoted⟩ := List.eq_append_cons_of_mem member
    have found := read_quoted?_eq_some_iff.mpr ⟨inside, unquoted, rfl, split⟩
    rw [found] at missing
    cases missing
  · intro unquoted
    cases found : readQuoted? text with
    | none => rfl
    | some pair =>
        obtain ⟨inside, _, _, split⟩ := read_quoted?_eq_some_iff.mp found
        exact absurd (by simp [split]) unquoted

theorem read_named?_eq_some_iff {kind : TokenKind} {mark text rest : Text} {token : Token} :
    readNamed? kind mark text = some (token, rest) ↔
      ∃ name, name ≠ [] ∧ token = ⟨kind, mark ++ name⟩ ∧ (∀ c ∈ name, isNameChar c = true) ∧
        text = name ++ rest ∧ Text.beginsWith isNameChar rest = false := by
  constructor
  · intro found
    unfold readNamed? at found
    split at found
    · cases found
    · rename_i nonempty
      cases found
      exact ⟨_, nonempty, rfl, Text.take_while_drop_while_iff.mp ⟨rfl, rfl⟩⟩
  · rintro ⟨name, nonempty, rfl, run⟩
    obtain ⟨taken, dropped⟩ := Text.take_while_drop_while_iff.mpr run
    unfold readNamed?
    rw [taken, dropped]
    split
    · exact absurd rfl nonempty
    · rfl

theorem read_named?_eq_none_iff {kind : TokenKind} {mark text : Text} :
    readNamed? kind mark text = none ↔ Text.beginsWith isNameChar text = false := by
  rw [← Text.take_while_eq_nil_iff_begins_with]
  unfold readNamed?
  split <;> simp_all

theorem read_word?_eq_some_iff {text rest : Text} {token : Token} :
    readWord? text = some (token, rest) ↔
      ∃ word, word ≠ [] ∧ token = ⟨.word, word⟩ ∧ (∀ c ∈ word, isWordChar c = true) ∧
        text = word ++ rest ∧ Text.beginsWith isWordChar rest = false := by
  constructor
  · intro found
    unfold readWord? at found
    split at found
    · cases found
    · rename_i nonempty
      cases found
      exact ⟨_, nonempty, rfl, Text.take_while_drop_while_iff.mp ⟨rfl, rfl⟩⟩
  · rintro ⟨word, nonempty, rfl, run⟩
    obtain ⟨taken, dropped⟩ := Text.take_while_drop_while_iff.mpr run
    unfold readWord?
    rw [taken, dropped]
    split
    · exact absurd rfl nonempty
    · rfl

theorem read_word?_eq_none_iff {text : Text} :
    readWord? text = none ↔ Text.beginsWith isWordChar text = false := by
  rw [← Text.take_while_eq_nil_iff_begins_with]
  unfold readWord?
  split <;> simp_all

theorem read?_eq_read_word? {c : Char} {rest : Text} (quote : c ≠ '"') (sentinel : c ≠ '$')
    (bracket : c = '[' → ∀ afterPair, rest ≠ ']' :: afterPair) :
    read? (c :: rest) = readWord? (c :: rest) := by
  unfold read?
  split
  · rename_i whole
    exact absurd (List.cons.inj whole).1 quote
  · rename_i whole
    exact absurd (List.cons.inj whole).1 sentinel
  · rename_i afterPair whole
    obtain ⟨first, second⟩ := List.cons.inj whole
    exact absurd second (bracket first afterPair)
  · rfl

/-- A token is read at the start of a text exactly when the text is that token and the rest, the token
has one of the four shapes, and nothing of the rest prolongs it. -/
theorem read?_eq_some_iff {text rest : Text} {token : Token} :
    read? text = some (token, rest) ↔
      HasShape token ∧ token.EndsBefore rest ∧ text = token.text ++ rest := by
  constructor
  · intro found
    unfold read? at found
    split at found
    · obtain ⟨inside, unquoted, rfl, rfl⟩ := read_quoted?_eq_some_iff.mp found
      exact ⟨.quoted inside unquoted, trivial, by simp⟩
    · obtain ⟨name, nonempty, rfl, spelled, rfl, stop⟩ := read_named?_eq_some_iff.mp found
      exact ⟨.reference name nonempty spelled, stop, rfl⟩
    · obtain ⟨name, nonempty, rfl, spelled, rfl, stop⟩ := read_named?_eq_some_iff.mp found
      exact ⟨.groupMark name nonempty spelled, stop, rfl⟩
    · obtain ⟨word, nonempty, rfl, spelled, rfl, stop⟩ := read_word?_eq_some_iff.mp found
      exact ⟨.word word nonempty spelled, stop, rfl⟩
  · rintro ⟨shape, stop, rfl⟩
    cases shape with
    | quoted inside unquoted =>
        exact read_quoted?_eq_some_iff.mpr ⟨inside, unquoted, rfl, by simp⟩
    | reference name nonempty spelled =>
        exact read_named?_eq_some_iff.mpr ⟨name, nonempty, rfl, spelled, rfl, stop⟩
    | groupMark name nonempty spelled =>
        exact read_named?_eq_some_iff.mpr ⟨name, nonempty, rfl, spelled, rfl, stop⟩
    | word word nonempty spelled =>
        obtain ⟨c, others, rfl⟩ := List.exists_cons_of_ne_nil nonempty
        have accepted : isWordChar c = true := spelled c (by simp)
        have apart : ∀ mark, isWordChar mark = false → c ≠ mark := by
          intro mark refused same
          rw [same, refused] at accepted
          cases accepted
        rw [List.cons_append, read?_eq_read_word? (apart '"' (by decide)) (apart '$' (by decide))
          (fun same => absurd same (apart '[' (by decide)))]
        exact read_word?_eq_some_iff.mpr ⟨c :: others, nonempty, rfl, spelled, rfl, stop⟩

theorem read?_eq_none_iff {c : Char} {rest : Text} :
    read? (c :: rest) = none ↔ Droppable c rest := by
  constructor
  · intro missing
    by_cases quote : c = '"'
    · subst quote
      have unclosed := read_quoted?_eq_none_iff.mp missing
      exact ⟨by decide, by simp, by simp, fun _ => unclosed⟩
    by_cases sentinel : c = '$'
    · subst sentinel
      have nameless := read_named?_eq_none_iff.mp missing
      exact ⟨by decide, fun _ => nameless, by simp, by simp⟩
    by_cases bracket : c = '['
    · subst bracket
      refine ⟨by decide, by simp, ?_, by simp⟩
      rintro - afterPair rfl
      exact read_named?_eq_none_iff.mp missing
    · rw [read?_eq_read_word? quote sentinel (fun same => absurd same bracket)] at missing
      have other := read_word?_eq_none_iff.mp missing
      exact ⟨other, fun same => absurd same sentinel, fun same => absurd same bracket,
        fun same => absurd same quote⟩
  · intro droppable
    unfold read?
    split
    · rename_i afterQuote whole
      obtain ⟨rfl, rfl⟩ := List.cons.inj whole
      exact read_quoted?_eq_none_iff.mpr (droppable.quote rfl)
    · rename_i afterMark whole
      obtain ⟨rfl, rfl⟩ := List.cons.inj whole
      exact read_named?_eq_none_iff.mpr (droppable.sentinel rfl)
    · rename_i afterPair whole
      obtain ⟨rfl, rfl⟩ := List.cons.inj whole
      exact read_named?_eq_none_iff.mpr (droppable.bracket rfl afterPair rfl)
    · exact read_word?_eq_none_iff.mpr droppable.notWord

end Token

end LineScript
