import LineScript.Text.WhiteSpace

/-!
# Runs of characters

How a text begins and ends with respect to a class of characters. The longest run of a class at the
start of a text is determined by what has to follow it, and the characters of white space are listed.
-/

namespace LineScript.Text

set_option autoImplicit false

/-- Whether a text begins with a character of a class. -/
def beginsWith (accepts : Char → Bool) (text : Text) : Bool := text.head?.any accepts

@[simp] theorem begins_with_cons (accepts : Char → Bool) (c : Char) (rest : Text) :
    beginsWith accepts (c :: rest) = accepts c := rfl

theorem begins_with_drop_while (accepts : Char → Bool) (text : Text) :
    beginsWith accepts (text.dropWhile accepts) = false := by
  induction text with
  | nil => rfl
  | cons c rest ih =>
      by_cases accepted : accepts c = true
      · rw [List.dropWhile_cons_of_pos accepted]
        exact ih
      · rw [List.dropWhile_cons_of_neg accepted]
        simpa using accepted

/-- The longest run of a class at the start of a text is the run of that class that no character of
the class follows. -/
theorem take_while_drop_while_iff {accepts : Char → Bool} {text run rest : Text} :
    (text.takeWhile accepts = run ∧ text.dropWhile accepts = rest) ↔
      (∀ c ∈ run, accepts c = true) ∧ text = run ++ rest ∧ beginsWith accepts rest = false := by
  constructor
  · rintro ⟨rfl, rfl⟩
    exact ⟨List.all_eq_true.mp List.all_takeWhile, List.takeWhile_append_dropWhile.symm,
      begins_with_drop_while accepts text⟩
  · rintro ⟨inside, rfl, stop⟩
    rw [List.takeWhile_append_of_pos inside, List.dropWhile_append_of_pos inside]
    cases rest with
    | nil => simp
    | cons c rest =>
        rw [begins_with_cons] at stop
        simp [stop]

theorem take_while_eq_nil_iff_begins_with {accepts : Char → Bool} {text : Text} :
    text.takeWhile accepts = [] ↔ beginsWith accepts text = false := by
  cases text with
  | nil => simp [beginsWith]
  | cons c rest =>
      rw [begins_with_cons]
      cases accepted : accepts c <;> simp [accepted]

/-- Whether a text ends with a character of a class. -/
def endsWith (accepts : Char → Bool) (text : Text) : Bool := text.getLast?.any accepts

@[simp] theorem ends_with_nil (accepts : Char → Bool) : endsWith accepts [] = false := rfl

theorem ends_with_append {accepts : Char → Bool} (before : Text) {text : Text} (nonempty : text ≠ []) :
    endsWith accepts (before ++ text) = endsWith accepts text := by
  rw [endsWith, endsWith, List.getLast?_append, List.getLast?_eq_some_getLast nonempty]
  rfl

theorem ends_with_eq_false {accepts : Char → Bool} {text : Text}
    (refused : ∀ c ∈ text, accepts c = false) : endsWith accepts text = false := by
  rw [endsWith]
  cases last : text.getLast? with
  | none => rfl
  | some c => exact refused c (List.mem_of_getLast? last)

/-- The code points of white space. -/
def whiteSpaceCodes : List Nat :=
  [0x09, 0x0A, 0x0B, 0x0C, 0x0D, 0x20, 0x85, 0xA0, 0x1680, 0x2000, 0x2001, 0x2002, 0x2003, 0x2004,
    0x2005, 0x2006, 0x2007, 0x2008, 0x2009, 0x200A, 0x2028, 0x2029, 0x202F, 0x205F, 0x3000]

theorem to_nat_mem_white_space_codes {c : Char} (blank : isWhiteSpace c = true) :
    c.toNat ∈ whiteSpaceCodes := by
  simp only [isWhiteSpace, Bool.or_eq_true, Bool.and_eq_true, decide_eq_true_eq, beq_iff_eq] at blank
  simp only [whiteSpaceCodes, List.mem_cons, List.not_mem_nil, or_false]
  omega

end LineScript.Text
