import LineScript.Text.Basic

/-!
# Search patterns

A search pattern is written with `?` for one character, `*` for any run of characters, `**` as a
whole path component for any number of components, and bracket classes. A class may be negated by a
leading `!`, may have `]` as its first member, and holds single characters and ranges. There are no
escapes.
-/

namespace LineScript.Glob

set_option autoImplicit false

inductive Member where
  | single (c : Char)
  | range (low high : Char)
  deriving DecidableEq, Repr

inductive Piece where
  | literal (c : Char)
  | anyCharacter
  | anyRun
  | anyComponents
  | oneOf (members : List Member)
  | noneOf (members : List Member)
  deriving DecidableEq, Repr

/-- Why a pattern is malformed, with the position of the fault counted from zero. -/
inductive Fault where
  | tooManyStars (position : Nat)
  | starsInsideComponent (position : Nat)
  | unclosedClass (position : Nat)
  deriving DecidableEq, Repr

def Fault.message : Fault → Text
  | .tooManyStars position =>
    worded position "wildcards are either regular `*` or recursive `**`".toList
  | .starsInsideComponent position =>
    worded position "recursive wildcards must form a single path component".toList
  | .unclosedClass position => worded position "invalid range pattern".toList
where
  /-- A fault's position and what is wrong there. -/
  worded (position : Nat) (wrong : Text) : Text :=
    "Pattern syntax error near position ".toList ++ Text.decimal position ++ [':', ' '] ++ wrong

/-- The members that the inside of a class lists. A dash between two characters makes a range; a dash
at either end is a member itself. -/
def members : Text → List Member
  | [] => []
  | [c] => [.single c]
  | [c, d] => [.single c, .single d]
  | c :: d :: e :: rest =>
    if d = '-' then .range c e :: members rest else .single c :: members (d :: e :: rest)

/-- The inside of a class and what follows its closing bracket. The first character belongs to the
inside whatever it is. -/
def classBody? : Text → Option (Text × Text)
  | [] => none
  | first :: text =>
    match text.dropWhile (· != ']') with
    | [] => none
    | _ :: rest => some (first :: text.takeWhile (· != ']'), rest)

theorem class_body?_shorter {text inside rest : Text}
    (found : classBody? text = some (inside, rest)) : rest.length + 2 ≤ text.length := by
  unfold classBody? at found
  split at found
  · cases found
  · rename_i first tail
    have dropped := (List.dropWhile_suffix (l := tail) (· != ']')).length_le
    split at found
    · cases found
    · rename_i whole
      cases found
      rw [whole, List.length_cons] at dropped
      simp only [List.length_cons]
      omega

/-- Reads a pattern from `position` on, where `previous` is the character just before it. -/
def piecesFrom (previous : Option Char) (position : Nat) : Text → Except Fault (List Piece)
  | [] => .ok []
  | '?' :: rest => (piecesFrom (some '?') (position + 1) rest).map (.anyCharacter :: ·)
  | '*' :: '*' :: '*' :: _ => .error (.tooManyStars (position + 2))
  | '*' :: '*' :: rest =>
    if previous = none ∨ previous = some '/' then
      match rest with
      | [] => .ok [.anyComponents]
      | c :: after =>
        if c = '/' then (piecesFrom (some '/') (position + 3) after).map (.anyComponents :: ·)
        else .error (.starsInsideComponent (position + 2))
    else .error (.starsInsideComponent (position - 1))
  | '*' :: rest => (piecesFrom (some '*') (position + 1) rest).map (.anyRun :: ·)
  | '[' :: '!' :: text =>
    match _found : classBody? text with
    | some (inside, rest) =>
      (piecesFrom (some ']') (position + inside.length + 3) rest).map (.noneOf (members inside) :: ·)
    | none => .error (.unclosedClass position)
  | '[' :: text =>
    match _found : classBody? text with
    | some (inside, rest) =>
      (piecesFrom (some ']') (position + inside.length + 2) rest).map (.oneOf (members inside) :: ·)
    | none => .error (.unclosedClass position)
  | c :: rest => (piecesFrom (some c) (position + 1) rest).map (.literal c :: ·)
termination_by text => text.length
decreasing_by
  all_goals
    simp only [List.length_cons]
    try have := class_body?_shorter _found
    omega

def pieces (pattern : Text) : Except Fault (List Piece) := piecesFrom none 0 pattern

end LineScript.Glob
