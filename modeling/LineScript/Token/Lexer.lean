import LineScript.Token

/-!
# Reading tokens from a line

The reader stands before a character of the line. It takes the longest token that begins there; where
none begins it drops the character. So an unpaired quote, a lone `$`, a bracket pair without a name
and every character outside the four shapes are passed over.
-/

namespace LineScript.Token

set_option autoImplicit false

/-- The rest of a quoted text after its opening quote: all before the next quote, then that quote. -/
def readQuoted? (afterQuote : Text) : Option (Token × Text) :=
  match afterQuote.dropWhile (· != '"') with
  | [] => none
  | quote :: rest => some (⟨.quoted, '"' :: afterQuote.takeWhile (· != '"') ++ [quote]⟩, rest)

def readNamed? (kind : TokenKind) (mark afterMark : Text) : Option (Token × Text) :=
  match afterMark.takeWhile isNameChar with
  | [] => none
  | name => some (⟨kind, mark ++ name⟩, afterMark.dropWhile isNameChar)

def readWord? (text : Text) : Option (Token × Text) :=
  match text.takeWhile isWordChar with
  | [] => none
  | word => some (⟨.word, word⟩, text.dropWhile isWordChar)

/-- The token that begins exactly at the start of the text, and what follows it. -/
def read? : Text → Option (Token × Text)
  | '"' :: rest => readQuoted? rest
  | '$' :: rest => readNamed? .variable ['$'] rest
  | '[' :: ']' :: rest => readNamed? .group ['[', ']'] rest
  | text => readWord? text

def next? : Text → Option (Token × Text)
  | [] => none
  | c :: rest =>
    match read? (c :: rest) with
    | some found => some found
    | none => next? rest

theorem read_quoted?_shorter {text rest : Text} {token : Token}
    (found : readQuoted? text = some (token, rest)) : rest.length < text.length := by
  unfold readQuoted? at found
  have dropped := (List.dropWhile_suffix (l := text) (· != '"')).length_le
  split at found
  · cases found
  · rename_i quote after whole
    cases found
    rw [whole, List.length_cons] at dropped
    omega

theorem read_named?_shorter {kind : TokenKind} {mark text rest : Text} {token : Token}
    (found : readNamed? kind mark text = some (token, rest)) : rest.length ≤ text.length := by
  unfold readNamed? at found
  split at found
  · cases found
  · cases found
    exact (List.dropWhile_suffix _).length_le

theorem read_word?_shorter {text rest : Text} {token : Token}
    (found : readWord? text = some (token, rest)) : rest.length < text.length := by
  unfold readWord? at found
  split at found
  · cases found
  · rename_i word nonempty
    cases found
    have whole := congrArg List.length (List.takeWhile_append_dropWhile (p := isWordChar) (l := text))
    rw [List.length_append] at whole
    have positive : 0 < (text.takeWhile isWordChar).length :=
      List.length_pos_iff.mpr nonempty
    omega

theorem read?_shorter {text rest : Text} {token : Token}
    (found : read? text = some (token, rest)) : rest.length < text.length := by
  unfold read? at found
  split at found
  · have := read_quoted?_shorter found
    simp only [List.length_cons]
    omega
  · have := read_named?_shorter found
    simp only [List.length_cons]
    omega
  · have := read_named?_shorter found
    simp only [List.length_cons]
    omega
  · exact read_word?_shorter found

theorem next?_shorter {text rest : Text} {token : Token}
    (found : next? text = some (token, rest)) : rest.length < text.length := by
  induction text with
  | nil => simp [next?] at found
  | cons c tail ih =>
    unfold next? at found
    split at found
    · rename_i first here
      cases found
      exact read?_shorter here
    · have := ih found
      simp only [List.length_cons]
      omega

def scan (line : Text) : List Token :=
  match _found : next? line with
  | none => []
  | some (token, rest) => token :: scan rest
termination_by line.length
decreasing_by exact next?_shorter _found

theorem scan_eq_nil {line : Text} (exhausted : next? line = none) : scan line = [] := by
  rw [scan]
  split
  · rfl
  · simp_all

theorem scan_eq_cons {line rest : Text} {token : Token}
    (found : next? line = some (token, rest)) : scan line = token :: scan rest := by
  rw [scan]
  split
  · simp_all
  · simp_all

end LineScript.Token
