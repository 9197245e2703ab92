import LineScript.Text.Quoted

/-!
# What quoted texts stand for

Writing a value between quotes doubles its backslashes and escapes its line feeds; any character that
has an escape may be escaped instead. Removing the quotes gives the value back. A text without quotes
stands for a text without quotes, and for itself exactly when none of the pairs read from left to
right is an escape.
-/

namespace LineScript.Text

set_option autoImplicit false

variable {written value rest : Text} {c letter meant : Char}

theorem unescape_cons (plain : c ≠ '\\') : unescape (c :: rest) = c :: unescape rest := by
  cases rest with
  | nil => rfl
  | cons d rest => simp [unescape, plain]

theorem unescape_escape (known : escaped? letter = some meant) :
    unescape ('\\' :: letter :: rest) = meant :: unescape rest := by
  simp [unescape, known]

theorem unescape_unknown (unknown : escaped? letter = none) :
    unescape ('\\' :: letter :: rest) = '\\' :: letter :: unescape rest := by
  simp [unescape, unknown]

/-- A spelling of a value between quotes: a backslash is written as an escape, any other character as
itself or as an escape. -/
inductive Spells : Text → Text → Prop where
  | nil : Spells [] []
  | plain {written value : Text} {c : Char} (plain : c ≠ '\\') (spells : Spells written value) :
      Spells (c :: written) (c :: value)
  | escaped {written value : Text} {letter meant : Char} (known : escaped? letter = some meant)
      (spells : Spells written value) : Spells ('\\' :: letter :: written) (meant :: value)

theorem Spells.unescape_eq (spells : Spells written value) : unescape written = value := by
  induction spells with
  | nil => rfl
  | plain plain _ ih => rw [unescape_cons plain, ih]
  | escaped known _ ih => rw [unescape_escape known, ih]

/-- A value as it is written between quotes on one line. -/
def escape : Text → Text
  | [] => []
  | c :: rest =>
      if c = '\\' then '\\' :: '\\' :: escape rest
      else if c = '\n' then '\\' :: 'n' :: escape rest
      else c :: escape rest

def literal (value : Text) : Text := '"' :: escape value ++ ['"']

theorem spells_escape (value : Text) : Spells (escape value) value := by
  induction value with
  | nil => exact .nil
  | cons c rest ih =>
      unfold escape
      split
      · rename_i backslash
        subst backslash
        exact .escaped (by decide) ih
      · rename_i plain
        split
        · rename_i feed
          subst feed
          exact .escaped (by decide) ih
        · exact .plain plain ih

theorem line_feed_not_mem_escape (value : Text) : '\n' ∉ escape value := by
  induction value with
  | nil => simp [escape]
  | cons c rest ih =>
      unfold escape
      split
      · simp [ih]
      · split
        · simp [ih]
        · rename_i other
          have different : '\n' ≠ c := fun same => other same.symm
          simp [ih, different]

theorem quote_not_mem_escape (unquoted : '"' ∉ value) : '"' ∉ escape value := by
  induction value with
  | nil => simp [escape]
  | cons c rest ih =>
      rw [List.mem_cons, not_or] at unquoted
      have inner := ih unquoted.2
      unfold escape
      split
      · simp [inner]
      · split
        · simp [inner]
        · simp [inner, unquoted.1]

/-! ## Removing the quotes -/

theorem unquote_quoted (inside : Text) : unquote ('"' :: inside ++ ['"']) = unescape inside := by
  have found : inner? ('"' :: inside ++ ['"']) = some inside := by simp [inner?]
  rw [unquote, found]

theorem unquote_literal (value : Text) : unquote (literal value) = value := by
  rw [literal, unquote_quoted, (spells_escape value).unescape_eq]

theorem unquote_eq_self (unquoted : '"' ∉ value) : unquote value = value := by
  have missing : inner? value = none := by
    unfold inner?
    split
    · simp at unquoted
    · rfl
  rw [unquote, missing]

theorem escaped?_ne_quote (known : escaped? letter = some meant) (other : letter ≠ '"') :
    meant ≠ '"' := by
  unfold escaped? at known
  grind

theorem quote_not_mem_unescape (unquoted : '"' ∉ written) : '"' ∉ unescape written := by
  induction written using unescape.induct with
  | case1 => simp [unescape]
  | case2 c => simpa [unescape] using unquoted
  | case3 letter rest meant known ih =>
      rw [List.mem_cons, not_or, List.mem_cons, not_or] at unquoted
      have different := escaped?_ne_quote known fun same => unquoted.2.1 same.symm
      rw [unescape_escape known, List.mem_cons, not_or]
      exact ⟨different.symm, ih unquoted.2.2⟩
  | case4 letter rest unknown ih =>
      rw [List.mem_cons, not_or, List.mem_cons, not_or] at unquoted
      rw [unescape_unknown unknown]
      simp [unquoted.2.1, ih unquoted.2.2]
  | case5 c d rest plain ih =>
      rw [List.mem_cons, not_or] at unquoted
      rw [unescape_cons plain]
      simp [unquoted.1, ih unquoted.2]

/-! ## Outer quotes -/

theorem drop_while_quote (unquoted : '"' ∉ value) : value.dropWhile (· == '"') = value := by
  cases value with
  | nil => rfl
  | cons c rest =>
      rw [List.mem_cons, not_or] at unquoted
      have different : c ≠ '"' := fun same => unquoted.1 same.symm
      simp [different]

theorem trim_marks_eq_self (unquoted : '"' ∉ value) : trimMarks '"' value = value := by
  have unquotedBack : '"' ∉ value.reverse := by rwa [List.mem_reverse]
  rw [trimMarks, drop_while_quote unquoted, drop_while_quote unquotedBack, List.reverse_reverse]

theorem trim_marks_quoted {inside : Text} (unquoted : '"' ∉ inside) :
    trimMarks '"' ('"' :: inside ++ ['"']) = inside := by
  cases inside with
  | nil => rfl
  | cons c rest =>
      have outside := unquoted
      rw [List.mem_cons, not_or] at outside
      have different : c ≠ '"' := fun same => outside.1 same.symm
      have unquotedBack : '"' ∉ (c :: rest).reverse := by rwa [List.mem_reverse]
      have opened : ('"' :: (c :: rest) ++ ['"']).dropWhile (· == '"') = c :: rest ++ ['"'] := by
        simp [different]
      have closed : (c :: rest ++ ['"']).reverse = '"' :: (c :: rest).reverse := by simp
      rw [trimMarks, opened, closed, List.dropWhile_cons_of_pos rfl, drop_while_quote unquotedBack,
        List.reverse_reverse]

/-! ## Texts that stand for themselves -/

/-- The letters that follow the backslashes of a text, when it is read from left to right and a
backslash takes the next character with it. -/
def pairLetters : Text → List Char
  | [] => []
  | [_] => []
  | c :: d :: rest => if c = '\\' then d :: pairLetters rest else pairLetters (d :: rest)

theorem pair_letters_cons (plain : c ≠ '\\') : pairLetters (c :: rest) = pairLetters rest := by
  cases rest with
  | nil => rfl
  | cons d rest => simp [pairLetters, plain]

theorem pair_letters_pair : pairLetters ('\\' :: letter :: rest) = letter :: pairLetters rest := by
  simp [pairLetters]

theorem mem_of_mem_pair_letters (member : letter ∈ pairLetters written) : letter ∈ written := by
  induction written using pairLetters.induct with
  | case1 => cases member
  | case2 c => cases member
  | case3 d rest ih =>
      rw [pair_letters_pair, List.mem_cons] at member
      rcases member with here | later
      · simp [here]
      · simp [ih later]
  | case4 c d rest plain ih =>
      rw [pair_letters_cons plain] at member
      exact List.mem_cons_of_mem c (ih member)

theorem length_unescape_le (written : Text) : (unescape written).length ≤ written.length := by
  induction written using unescape.induct with
  | case1 => simp [unescape]
  | case2 c => simp [unescape]
  | case3 letter rest meant known ih =>
      rw [unescape_escape known]
      simp only [List.length_cons]
      omega
  | case4 letter rest unknown ih =>
      rw [unescape_unknown unknown]
      simpa using ih
  | case5 c d rest plain ih =>
      rw [unescape_cons plain]
      simpa using ih

/-- Reading escapes changes a text exactly when one of its pairs is an escape, for that pair then
becomes a single character and nothing ever becomes longer. -/
theorem unescape_eq_self_iff :
    unescape written = written ↔ ∀ letter ∈ pairLetters written, escaped? letter = none := by
  induction written using unescape.induct with
  | case1 => simp [unescape, pairLetters]
  | case2 c => simp [unescape, pairLetters]
  | case3 letter rest meant known ih =>
      have shorter := length_unescape_le rest
      have changed : unescape ('\\' :: letter :: rest) ≠ '\\' :: letter :: rest := by
        intro same
        have sameLength := congrArg List.length same
        rw [unescape_escape known] at sameLength
        simp only [List.length_cons] at sameLength
        omega
      have found : letter ∈ pairLetters ('\\' :: letter :: rest) := by simp [pairLetters]
      have refuted : ¬ ∀ d ∈ pairLetters ('\\' :: letter :: rest), escaped? d = none := by
        intro unknown
        rw [unknown letter found] at known
        cases known
      simp only [changed, refuted]
  | case4 letter rest unknown ih =>
      rw [unescape_unknown unknown, pair_letters_pair]
      simp [ih, unknown]
  | case5 c d rest plain ih =>
      rw [unescape_cons plain, pair_letters_cons plain]
      simp [ih]

theorem escaped?_eq_none_iff (other : letter ≠ '"') :
    escaped? letter = none ↔ letter ∉ ['n', 't', 'r', '0', '\\', '\''] := by
  simp [escaped?]
  grind

theorem unescape_eq_self_iff_of_quoteless {inside : Text} (unquoted : '"' ∉ inside) :
    unescape inside = inside ↔
      ∀ letter ∈ pairLetters inside, letter ∉ ['n', 't', 'r', '0', '\\', '\''] := by
  have quoteless : ∀ letter ∈ pairLetters inside, letter ≠ '"' := by
    intro letter member same
    rw [same] at member
    exact unquoted (mem_of_mem_pair_letters member)
  rw [unescape_eq_self_iff]
  constructor
  · intro unknown letter member
    exact (escaped?_eq_none_iff (quoteless letter member)).mp (unknown letter member)
  · intro other letter member
    exact (escaped?_eq_none_iff (quoteless letter member)).mpr (other letter member)

/-! ## Texts between quotes -/

/-- The text is one of at least two characters with a quote at each end. -/
def IsWrapped (value : Text) : Prop :=
  2 ≤ value.length ∧ value.head? = some '"' ∧ value.getLast? = some '"'

theorem is_wrapped_iff {value : Text} :
    value.IsWrapped ↔ ∃ inside, value = '"' :: inside ++ ['"'] := by
  constructor
  · rintro ⟨long, first, last⟩
    obtain ⟨rest, rfl⟩ := List.head?_eq_some_iff.mp first
    have nonempty : rest ≠ [] := by
      rintro rfl
      simp at long
    rw [List.getLast?_cons, List.getLast?_eq_some_getLast nonempty] at last
    obtain ⟨inside, rfl⟩ := List.getLast?_eq_some_iff.mp
      ((List.getLast?_eq_some_getLast nonempty).trans last)
    exact ⟨inside, rfl⟩
  · rintro ⟨inside, rfl⟩
    refine ⟨by simp, rfl, ?_⟩
    exact List.getLast?_concat

theorem unquote_of_not_is_wrapped {value : Text} (bare : ¬ value.IsWrapped) :
    unquote value = value := by
  cases missing : inner? value with
  | none => rw [unquote, missing]
  | some inside =>
    unfold inner? at missing
    split at missing
    · rename_i rest
      split at missing
      · rename_i last
        obtain ⟨start, rfl⟩ := List.getLast?_eq_some_iff.mp last
        exact absurd (is_wrapped_iff.mpr ⟨start, rfl⟩) bare
      · cases missing
    · cases missing

end LineScript.Text
