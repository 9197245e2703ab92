import LineScript.Glob

/-!
# Matching names

Letters of ASCII are compared without regard to case, other characters exactly. A range disregards
case only when both its ends are ASCII letters; it is then tried on the lower-case letters as well as
on the characters themselves. Only `**` and a literal slash take a slash of the name.

`matchesName` says what a match is by trying every run. `answers` decides it for all ends of a name at
once, which takes one pass over the name for each element; `accepts_eq_matches_name` says that the two
agree.
-/

namespace LineScript.Glob

set_option autoImplicit false

/-- Equality of characters up to the case of ASCII letters. -/
def sameLetter (first second : Char) : Bool := first.toLower == second.toLower

def isLowerLetter (c : Char) : Bool := 'a' ≤ c && c ≤ 'z'

namespace Member

/-- The characters that a class member stands for. -/
def accepts : Member → Char → Bool
  | .single d, c => sameLetter c d
  | .range low high, c =>
    (low ≤ c && c ≤ high) ||
      (c.toNat < 0x80 && isLowerLetter low.toLower && isLowerLetter high.toLower &&
        low.toLower ≤ c.toLower && c.toLower ≤ high.toLower)

end Member

def restsOfRun : Text → List Text
  | [] => [[]]
  | c :: rest => (c :: rest) :: if c = '/' then [] else restsOfRun rest

/-- What is left of a name after components with their slashes, or everything, are taken from its
start. -/
def restsOfComponents : Text → List Text
  | [] => [[]]
  | c :: rest => if c = '/' then rest :: restsOfComponents rest else restsOfComponents rest

def Piece.accepts : Piece → Char → Bool
  | .literal d, c => sameLetter c d
  | .anyCharacter, c => c != '/'
  | .oneOf members, c => c != '/' && members.any (·.accepts c)
  | .noneOf members, c => c != '/' && !members.any (·.accepts c)
  | .anyRun, _ | .anyComponents, _ => false

def matchesName : List Piece → Text → Bool
  | [], name => name.isEmpty
  | .anyRun :: others, name => (restsOfRun name).any (matchesName others)
  | .anyComponents :: others, name => (name :: restsOfComponents name).any (matchesName others)
  | piece :: others, name =>
    match name with
    | [] => false
    | c :: rest => piece.accepts c && matchesName others rest

/-- The answers for a name and its ends, the longest first, when the element stands for one
character and `later` holds the answers for what follows it. -/
def Piece.singleAnswers (piece : Piece) : Text → List Bool → List Bool
  | c :: rest, _ :: later =>
    (piece.accepts c && later.headD false) :: piece.singleAnswers rest later
  | _, _ => [false]

def runAnswers : Text → List Bool → List Bool
  | c :: rest, now :: later =>
    let behind := runAnswers rest later
    (now || c != '/' && behind.headD false) :: behind
  | _, later => later

def componentAnswers : Text → List Bool → List Bool
  | c :: rest, _ :: later =>
    let behind := componentAnswers rest later
    (c == '/' && later.headD false || behind.headD false) :: behind
  | _, later => later

def answers : List Piece → Text → List Bool
  | [], name => name.foldr (fun _ later => false :: later) [true]
  | .anyRun :: others, name => runAnswers name (answers others name)
  | .anyComponents :: others, name =>
    let later := answers others name
    List.zipWith (· || ·) later (componentAnswers name later)
  | piece :: others, name => piece.singleAnswers name (answers others name)

/-- Whether the elements of a pattern match a whole name, decided in a time that grows with the size of
both. -/
def accepts (pieces : List Piece) (name : Text) : Bool := (answers pieces name).headD false

def answersBy (decide : Text → Bool) : Text → List Bool
  | [] => [decide []]
  | c :: rest => decide (c :: rest) :: answersBy decide rest

@[simp] theorem head?_answers_by (decide : Text → Bool) (name : Text) :
    (answersBy decide name).head? = some (decide name) := by
  cases name <;> rfl

theorem single_answers_answers_by (piece : Piece) (decide : Text → Bool) (name : Text) :
    piece.singleAnswers name (answersBy decide name) =
      answersBy
        (fun
          | [] => false
          | c :: rest => piece.accepts c && decide rest)
        name := by
  induction name with
  | nil => rfl
  | cons c rest ih => simp [Piece.singleAnswers, answersBy, ih]

theorem run_answers_answers_by (decide : Text → Bool) (name : Text) :
    runAnswers name (answersBy decide name) =
      answersBy (fun name => (restsOfRun name).any decide) name := by
  induction name with
  | nil => simp [runAnswers, answersBy, restsOfRun]
  | cons c rest ih =>
    by_cases slash : c = '/'
    · simp [runAnswers, answersBy, ih, restsOfRun, slash]
    · have other : (c != '/') = true := bne_iff_ne.mpr slash
      simp [runAnswers, answersBy, ih, restsOfRun, slash, other]

theorem component_answers_answers_by (decide : Text → Bool) (name : Text) :
    componentAnswers name (answersBy decide name) =
      answersBy (fun name => (restsOfComponents name).any decide) name := by
  induction name with
  | nil => simp [componentAnswers, answersBy, restsOfComponents]
  | cons c rest ih =>
    by_cases slash : c = '/' <;> simp [componentAnswers, answersBy, ih, restsOfComponents, slash]

theorem zip_with_answers_by (first second : Text → Bool) (name : Text) :
    List.zipWith (· || ·) (answersBy first name) (answersBy second name) =
      answersBy (fun name => first name || second name) name := by
  induction name with
  | nil => rfl
  | cons c rest ih => simp [answersBy, ih]

theorem answers_eq_answers_by (pieces : List Piece) (name : Text) :
    answers pieces name = answersBy (matchesName pieces) name := by
  induction pieces with
  | nil =>
    induction name with
    | nil => rfl
    | cons c rest ih =>
      simp only [answers] at ih
      simp [answers, answersBy, matchesName, ih]
  | cons piece others ih =>
    cases piece with
    | anyRun =>
      simp only [answers, ih, run_answers_answers_by]
      rfl
    | anyComponents =>
      simp only [answers, ih, component_answers_answers_by, zip_with_answers_by]
      rfl
    | _ =>
      simp only [answers, ih, single_answers_answers_by]
      congr 1

theorem accepts_eq_matches_name (pieces : List Piece) (name : Text) :
    accepts pieces name = matchesName pieces name := by
  simp [accepts, answers_eq_answers_by]

end LineScript.Glob
