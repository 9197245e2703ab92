import LineScript.Text.Basic

/-!
# The order of versions

Names with numbers in them are put in the order of their numbers. Two names are compared by their runs
of other characters and their numbers in turn. What looks like the ending of a file's name decides only
between names that are otherwise alike.
-/

namespace LineScript.Programs.VersionOrder

set_option autoImplicit false

/-- The place of a character that is no digit: a tilde comes before the end of a name, letters come
after it, and all others after these. -/
def rank (c : Char) : Int :=
  if c = '~' then -2 else if c.isAlpha then c.toNat else c.toNat + 0x100

def rankAfter (rest : Text) : Int := if rest.isEmpty then -1 else 0

/-- Compares runs without digits, given what comes after them. A run that ends earlier is decided by
that. -/
def compareRuns (afterFirst afterSecond : Int) : Text → Text → Ordering
  | [], [] => .eq
  | [], d :: _ => compare afterFirst (rank d)
  | c :: _, [] => compare (rank c) afterSecond
  | c :: first, d :: second =>
    (compare (rank c) (rank d)).then (compareRuns afterFirst afterSecond first second)

def leadingNumber (text : Text) : Nat :=
  (text.takeWhile Char.isDigit).foldl (fun n c => n * 10 + (c.toNat - '0'.toNat)) 0

/-- Compares texts by their runs and numbers. Each step takes a run and a number off both. -/
def compareWithin : (steps : Nat) → Text → Text → Ordering
  | 0, _, _ | _, [], [] => .eq
  | steps + 1, first, second =>
    let afterFirst := first.dropWhile (!·.isDigit)
    let afterSecond := second.dropWhile (!·.isDigit)
    let byRuns :=
      compareRuns (rankAfter afterFirst) (rankAfter afterSecond) (first.takeWhile (!·.isDigit))
        (second.takeWhile (!·.isDigit))
    let byNumbers := compare (leadingNumber afterFirst) (leadingNumber afterSecond)
    (byRuns.then byNumbers).then
      (compareWithin steps (afterFirst.dropWhile Char.isDigit)
        (afterSecond.dropWhile Char.isDigit))

def compareTexts (first second : Text) : Ordering :=
  compareWithin (first.length + second.length) first second

def beginsEnding (c : Char) : Bool := c.isAlpha || c == '~'

/-- The length of a name without its ending: parts that begin with a dot and a letter and hold letters
and digits. `place` characters were passed and `length` belong to the name for certain. -/
def stemLengthWithin (length place : Nat) (insideEnding : Bool) : Text → Nat
  | [] => length
  | c :: rest =>
    if insideEnding && (c.isAlphanum || c == '~') then
      stemLengthWithin length (place + 1) true rest
    else if place ≠ 0 && c = '.' && rest.head?.any beginsEnding then
      stemLengthWithin (if insideEnding then length else place) (place + 1) true rest
    else stemLengthWithin (place + 1) (place + 1) false rest

def stem (name : Text) : Text := name.take (stemLengthWithin 0 0 false name)

def dotRank (name : Text) : Nat :=
  if name.isEmpty then 0 else if name = ['.'] then 1 else if name = ['.', '.'] then 2
  else if name.head? = some '.' then 3 else 4

def compareNames (first second : Text) : Ordering :=
  ((compare (dotRank first) (dotRank second)).then (compareTexts (stem first) (stem second))).then
    (compareTexts first second)

end LineScript.Programs.VersionOrder
