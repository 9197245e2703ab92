/-!
# Texts

A text is a list of characters. Lines, words, names, values and paths are texts; strings appear only
where a text enters or leaves the program.
-/

namespace LineScript

set_option autoImplicit false

abbrev Text := List Char

namespace Text

def toString (text : Text) : String := String.ofList text

def join (separator : Text) : List Text → Text
  | [] => []
  | [text] => text
  | text :: next :: others => text ++ separator ++ join separator (next :: others)

def trimMarks (mark : Char) (text : Text) : Text :=
  ((text.dropWhile (· == mark)).reverse.dropWhile (· == mark)).reverse

/-- The order of texts: by the first characters in which they differ, a text coming after those it
begins with. It is also the order of their bytes in UTF-8. -/
def le : Text → Text → Bool
  | [], _ => true
  | _ :: _, [] => false
  | c :: first, d :: second => if c = d then le first second else c.toNat < d.toNat

theorem le_trans {first second third : Text} (low : le first second = true)
    (high : le second third = true) : le first third = true := by
  induction first generalizing second third with
  | nil => rfl
  | cons c first ih =>
    cases second with
    | nil => simp [le] at low
    | cons d second =>
      cases third with
      | nil => simp [le] at high
      | cons e third =>
        by_cases cd : c = d
        · subst cd
          by_cases ce : c = e
          · subst ce
            simp only [le, if_true] at low high ⊢
            exact ih low high
          · simpa [le, ce] using high
        · by_cases de : d = e
          · subst de
            simpa [le, cd] using low
          · simp only [le, cd, de, if_false, decide_eq_true_eq] at low high
            have apart : ¬ c = e := by
              intro h
              subst h
              omega
            simp only [le, apart, if_false, decide_eq_true_eq]
            omega

def decimal (n : Nat) : Text := Nat.toDigits 10 n

def padLeft (width : Nat) (text : Text) : Text :=
  List.replicate (width - text.length) ' ' ++ text

end Text

end LineScript
